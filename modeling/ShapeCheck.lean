import ShapeCheck.Json.Printer
import ShapeCheck.Json.Reader
import ShapeCheck.Locator
import ShapeCheck.Unicode.CaseFold
import ShapeCheck.Unicode.Lowercase
import ShapeCheck.Unicode.Names
import ShapeCheck.Format.Builtin
import ShapeCheck.Binary64.Extended
import ShapeCheck.Text.Utf8
import ShapeCheck.Toml.Reader
import ShapeCheck.Toml.Writer
import ShapeCheck.Settings.Document
import ShapeCheck.Log.Event
import ShapeCheck.Log.Filter
import ShapeCheck.Log.Emission
import ShapeCheck.Main
import ShapeCheck.Proofs.Tree
import ShapeCheck.Proofs.Walk
import ShapeCheck.Proofs.Conformance
import ShapeCheck.Proofs.Keyword
import ShapeCheck.Proofs.Position
import ShapeCheck.Proofs.Grammar
import ShapeCheck.Proofs.Compilation
import ShapeCheck.Proofs.Reachable
import ShapeCheck.Proofs.Spelling
import ShapeCheck.Proofs.Locator
import ShapeCheck.Proofs.Canonical
import ShapeCheck.Proofs.TextBytes
import ShapeCheck.Proofs.Fault
import ShapeCheck.Proofs.Scanner
import ShapeCheck.Proofs.Blame
import ShapeCheck.Proofs.Reroot
import ShapeCheck.Proofs.SharedReport
import ShapeCheck.Proofs.Alike
import ShapeCheck.Proofs.MemberOrder
import ShapeCheck.Proofs.Rebuild
import ShapeCheck.Proofs.Agreement
import ShapeCheck.Proofs.HeldBack
import ShapeCheck.Proofs.Milder
import ShapeCheck.Proofs.Registration
import ShapeCheck.Proofs.Frame
import ShapeCheck.Proofs.History
import ShapeCheck.Proofs.Ledger
import ShapeCheck.Proofs.Alternatives
import ShapeCheck.Proofs.Rounding
import ShapeCheck.Proofs.Written
import ShapeCheck.Proofs.IntegerLimits
import ShapeCheck.Proofs.Site
import ShapeCheck.Proofs.Directory
import ShapeCheck.Proofs.CommandLine
import ShapeCheck.Proofs.EventLog
import ShapeCheck.Proofs.SchemaFile
import ShapeCheck.Proofs.Subdocument
import ShapeCheck.Proofs.Finding
import ShapeCheck.Proofs.Leniency
import ShapeCheck.Proofs.Trace
import ShapeCheck.Proofs.Loading
import ShapeCheck.Proofs.SizeLimits
import ShapeCheck.Proofs.CaseMapping
import ShapeCheck.Proofs.Matching
import ShapeCheck.Proofs.Expressions
import ShapeCheck.Proofs.MailAddress
import ShapeCheck.Proofs.DottedQuad
import ShapeCheck.Proofs.Alphabet
import ShapeCheck.Proofs.Overlay
import ShapeCheck.Proofs.SettingSources
import ShapeCheck.Proofs.VariableText
import ShapeCheck.Proofs.TomlText
import ShapeCheck.Proofs.TomlDocument
import ShapeCheck.Proofs.FileWriting
import ShapeCheck.Proofs.SavedSettings
