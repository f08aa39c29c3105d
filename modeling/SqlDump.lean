import SqlDump.Main
import SqlDump.Proofs.Lines
import SqlDump.Proofs.Conversion
import SqlDump.Proofs.Transfer
import SqlDump.Proofs.BuiltinPatterns
import SqlDump.Proofs.Blind
import SqlDump.Proofs.Uniform
import SqlDump.Proofs.Words
import SqlDump.Proofs.Sketch
import SqlDump.Proofs.TableNames
import SqlDump.Proofs.Absence
import SqlDump.Proofs.StableTypes
import SqlDump.Proofs.Decoding
import SqlDump.Proofs.ReadBack
import SqlDump.Proofs.LineEnds
import SqlDump.Proofs.Places
import SqlDump.Proofs.Stages
import SqlDump.Proofs.Runs
import SqlDump.Proofs.FileConversion
import SqlDump.Proofs.Pipeline
import SqlDump.Proofs.TypePass
import SqlDump.Proofs.WrittenConfig
import SqlDump.Proofs.Quotes
import SqlDump.Proofs.WrittenSubstitution
import SqlDump.Proofs.ColumnNames
import SqlDump.Proofs.IllFormed
import SqlDump.Proofs.Reports
import SqlDump.Proofs.CompiledRules
import SqlDump.Proofs.Statements
import SqlDump.Proofs.Parts
import SqlDump.Proofs.Records
import SqlDump.Proofs.TakenOut
