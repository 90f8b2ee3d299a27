import SqlScript.Main
import SqlScript.Failure
import SqlScript.Log.Session
import SqlScript.Log.Template
import SqlScript.Json.Reader
import SqlScript.Proofs.Roles
import SqlScript.Proofs.Runs
import SqlScript.Proofs.Boundaries
import SqlScript.Proofs.Content
import SqlScript.Proofs.OpenConstructs
import SqlScript.Proofs.Layout
import SqlScript.Proofs.Passages
import SqlScript.Proofs.Items
import SqlScript.Proofs.NestedStatements
import SqlScript.Proofs.Blank
import SqlScript.Proofs.CompoundStatements
import SqlScript.Proofs.LocalSubprograms
import SqlScript.Proofs.Packages
import SqlScript.Proofs.Locality
import SqlScript.Proofs.Reading
import SqlScript.Proofs.Marks
import SqlScript.Proofs.Spacing
import SqlScript.Proofs.LongestMatch
import SqlScript.Proofs.CommentRemoval
import SqlScript.Proofs.Excerpts
import SqlScript.Proofs.Placement
import SqlScript.Proofs.Terminators
import SqlScript.Proofs.LookAhead
import SqlScript.Proofs.Concatenation
import SqlScript.Proofs.Parallel
import SqlScript.Proofs.Outlines
import SqlScript.Proofs.Spellings
import SqlScript.Proofs.Trimming
import SqlScript.Proofs.Quotations
import SqlScript.Proofs.Stripping
import SqlScript.Proofs.Placeholders
import SqlScript.Proofs.Unended
import SqlScript.Proofs.Resplitting
import SqlScript.Proofs.TerminatorPairs
import SqlScript.Proofs.TrailingComments
import SqlScript.Proofs.JsonText
import SqlScript.Proofs.LogSessions
import SqlScript.Proofs.Reports
import SqlScript.Proofs.LogLines
import SqlScript.Proofs.OptionSessions
