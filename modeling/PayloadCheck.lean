import PayloadCheck.Main
import PayloadCheck.Check.Caller
import PayloadCheck.Report.Log
import PayloadCheck.Pattern.Template
import PayloadCheck.Proofs.Check.Catalogue
import PayloadCheck.Proofs.Check.Pass
import PayloadCheck.Proofs.Presence.Clauses
import PayloadCheck.Proofs.Presence.Statement
import PayloadCheck.Proofs.Check.Stored
import PayloadCheck.Proofs.Check.StoredLists
import PayloadCheck.Proofs.Check.Caller
import PayloadCheck.Proofs.Check.StoreAnswers
import PayloadCheck.Proofs.Check.Locality
import PayloadCheck.Proofs.Check.Skipped
import PayloadCheck.Proofs.Check.Independence
import PayloadCheck.Proofs.FieldMap
import PayloadCheck.Proofs.Rule.Writing
import PayloadCheck.Proofs.Rule.Folding
import PayloadCheck.Proofs.Check.Folded
import PayloadCheck.Proofs.Time.Calendar
import PayloadCheck.Proofs.Time.Digits
import PayloadCheck.Proofs.Time.Iso
import PayloadCheck.Proofs.Check.Dates
import PayloadCheck.Proofs.Time.Notations
import PayloadCheck.Proofs.Check.Notations
import PayloadCheck.Proofs.Rule.Merging
import PayloadCheck.Proofs.Presence.Pool
import PayloadCheck.Proofs.Report.Metrics
import PayloadCheck.Proofs.Check.Accounting
import PayloadCheck.Proofs.Folder
import PayloadCheck.Proofs.Raising
import PayloadCheck.Proofs.Command.Loading
import PayloadCheck.Proofs.Command.Endings
import PayloadCheck.Proofs.Value.Path
import PayloadCheck.Proofs.Value.Faults
import PayloadCheck.Proofs.Check.Bags
import PayloadCheck.Proofs.Check.Refusals
import PayloadCheck.Proofs.Check.Strays
import PayloadCheck.Proofs.Check.Construction
import PayloadCheck.Proofs.Json.Reading
import PayloadCheck.Proofs.Yaml.Reading
import PayloadCheck.Proofs.Command.Escapes
import PayloadCheck.Proofs.Check.Parting
import PayloadCheck.Proofs.Check.Placeholders
import PayloadCheck.Proofs.Check.Outcome
import PayloadCheck.Proofs.Check.Required
import PayloadCheck.Proofs.Number.Numeral
import PayloadCheck.Proofs.Number.Order
import PayloadCheck.Proofs.Value.Equality
import PayloadCheck.Proofs.Value.Looseness
import PayloadCheck.Proofs.Check.Comparison
import PayloadCheck.Proofs.Check.Sizes
import PayloadCheck.Proofs.Check.Numeric
import PayloadCheck.Proofs.Time.Readers
import PayloadCheck.Proofs.Check.DateReading
import PayloadCheck.Proofs.Time.Rendering
import PayloadCheck.Proofs.Time.Letters
import PayloadCheck.Proofs.Time.Layouts
import PayloadCheck.Proofs.Check.DateFormats
import PayloadCheck.Proofs.Pattern.Delimiters
import PayloadCheck.Proofs.Text.Casing
import PayloadCheck.Proofs.Text.Classes
import PayloadCheck.Proofs.Rule.Spelling
import PayloadCheck.Proofs.Pattern.Rounds
import PayloadCheck.Proofs.Check.Letters
import PayloadCheck.Proofs.Network.Locators
import PayloadCheck.Proofs.Check.Locators
import PayloadCheck.Proofs.Pattern.Counts
import PayloadCheck.Proofs.Pattern.SteadySteps
import PayloadCheck.Proofs.Pattern.Braces
import PayloadCheck.Proofs.Pattern.SteadyReaders
import PayloadCheck.Proofs.Pattern.Compiled
import PayloadCheck.Proofs.Presence.Opening
import PayloadCheck.Proofs.Rule.Identifier
import PayloadCheck.Proofs.Rule.ReadBack
import PayloadCheck.Proofs.Value.LongNumbers
import PayloadCheck.Proofs.Rule.Needs
import PayloadCheck.Proofs.Presence.LineReader
import PayloadCheck.Proofs.Presence.ConnectionLine
import PayloadCheck.Proofs.Time.Spelling
import PayloadCheck.Proofs.Check.Parameters
import PayloadCheck.Proofs.Rule.Additions
import PayloadCheck.Proofs.Rule.Workbench
