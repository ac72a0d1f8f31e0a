import Reroute.Command.Arguments
import Reroute.Command.Outcome
import Reroute.Command.Run
import Reroute.Command.Usage
import Reroute.Diagnostic.Ansi
import Reroute.Diagnostic.Basic
import Reroute.Diagnostic.Plain
import Reroute.Diagnostic.Terminal
import Reroute.FileSystem.Host
import Reroute.FileSystem.Path
import Reroute.FileSystem.Tree
import Reroute.Log.Event
import Reroute.Log.Traced
import Reroute.Main
import Reroute.Path.Lexical
import Reroute.Path.Walk
import Reroute.Proofs.CanonicalPaths
import Reroute.Proofs.CascadeOrder
import Reroute.Proofs.CascadeReads
import Reroute.Proofs.CleanPaths
import Reroute.Proofs.CommandLines
import Reroute.Proofs.CommandOutcomes
import Reroute.Proofs.FailureMarks
import Reroute.Proofs.FirstFailures
import Reroute.Proofs.LeadingDirectories
import Reroute.Proofs.LeadingReplacements
import Reroute.Proofs.NormalPaths
import Reroute.Proofs.Numerals
import Reroute.Proofs.ParentPaths
import Reroute.Proofs.PathSources
import Reroute.Proofs.PathWeight
import Reroute.Proofs.Pieces
import Reroute.Proofs.RemainderSpelling
import Reroute.Proofs.Remainders
import Reroute.Proofs.Renderings
import Reroute.Proofs.RuleChecks
import Reroute.Proofs.RuleFailures
import Reroute.Proofs.RuleGrammar
import Reroute.Proofs.RuleParts
import Reroute.Proofs.RuleSets
import Reroute.Proofs.RuleShadowing
import Reroute.Proofs.ScannerRuns
import Reroute.Proofs.Scanning
import Reroute.Proofs.SegmentRuns
import Reroute.Proofs.ShownText
import Reroute.Proofs.Validation
import Reroute.Proofs.VersionArithmetic
import Reroute.Proofs.VersionBumps
import Reroute.Proofs.VersionChains
import Reroute.Proofs.VersionHeads
import Reroute.Proofs.VersionJumps
import Reroute.Proofs.VersionLeading
import Reroute.Proofs.VersionMoves
import Reroute.Proofs.VersionRoots
import Reroute.Regex.Expression
import Reroute.Regex.Match
import Reroute.Regex.Parser
import Reroute.Regex.Program
import Reroute.Regex.Reader
import Reroute.Regex.Replace
import Reroute.Regex.Resolve
import Reroute.Regex.Syntax
import Reroute.Regex.Template
import Reroute.Regex.Weight
import Reroute.Renaming.Leading
import Reroute.Renaming.Renamer
import Reroute.Renaming.RuleSet
import Reroute.Renaming.Version
import Reroute.Rule.Basic
import Reroute.Rule.Parser
import Reroute.Rule.Scanner
import Reroute.Rule.ScannerRun
import Reroute.Settings.Basic
import Reroute.Settings.Cascade
import Reroute.Settings.Read
import Reroute.Settings.Template
import Reroute.Text
import Reroute.Toml.Document
import Reroute.Toml.Reader
import Reroute.Toml.Scalar
import Reroute.Toml.Tables
import Reroute.Toml.Value
import Reroute.Unicode.CaseFold
import Reroute.Unicode.Category
import Reroute.Unicode.CharSet
import Reroute.Unicode.Printable
import Reroute.Unicode.Property
import Reroute.Unicode.Script
