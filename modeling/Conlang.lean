import Conlang.Command
import Conlang.Definition.Basic
import Conlang.Definition.Loading
import Conlang.Inflection.Declension
import Conlang.Inflection.Rule
import Conlang.Inflection.RuleSet.Basic
import Conlang.Inflection.RuleSet.Evolution
import Conlang.Inflection.RuleSet.Forms
import Conlang.Inflection.RuleSet.Moving
import Conlang.Inflection.RuleSet.Sharing
import Conlang.Language
import Conlang.Lexicon
import Conlang.Main
import Conlang.Paradigm.Basic
import Conlang.Paradigm.Combination
import Conlang.Paradigm.Suppression
import Conlang.Pattern.Automaton
import Conlang.Pattern.Cached
import Conlang.Pattern.CharClass
import Conlang.Pattern.Engine
import Conlang.Pattern.Error
import Conlang.Pattern.Escape
import Conlang.Pattern.Lookaround
import Conlang.Pattern.Machine
import Conlang.Pattern.Reader
import Conlang.Pattern.Replace
import Conlang.Pattern.Shape
import Conlang.Pattern.Subject
import Conlang.Pattern.Syntax
import Conlang.Pattern.Template
import Conlang.Report.Explanation
import Conlang.Report.Forms
import Conlang.Report.Json
import Conlang.Report.Sound
import Conlang.Report.Validation
import Conlang.Settings
import Conlang.Sorting
import Conlang.Sound.Phonology
import Conlang.Sound.Syllable
import Conlang.Substitution
import Conlang.Text.Blank
import Conlang.Text.Casing
import Conlang.Text.Category
import Conlang.Text.CharSet
import Conlang.Text.Fields
import Conlang.Text.Letter
import Conlang.Text.Literal
import Conlang.Text.Numeral
import Conlang.Text.Property
import Conlang.Text.PropertyName
import Conlang.Text.Quoted
import Conlang.Text.Script
import Conlang.Text.Width
import Conlang.Toml.Decode
import Conlang.Toml.Document
import Conlang.Toml.Number
import Conlang.Toml.Reader
import Conlang.Toml.Text
import Conlang.Toml.Value
import Conlang.Proofs.Results
import Conlang.Proofs.Sorting
import Conlang.Proofs.Paradigm.Forms
import Conlang.Proofs.Paradigm.Reshaping
import Conlang.Proofs.RuleSet.Arrangement
import Conlang.Proofs.RuleSet.Operation
import Conlang.Proofs.RuleSet.Paradigms
import Conlang.Proofs.RuleSet.Listing
import Conlang.Proofs.RuleSet.WellKept
import Conlang.Proofs.RuleSet.Purging
import Conlang.Proofs.RuleSet.Change
import Conlang.Proofs.RuleSet.History
import Conlang.Proofs.RuleSet.Isolation
import Conlang.Proofs.RuleSet.Cascade
import Conlang.Proofs.RuleSet.Shrinking
import Conlang.Proofs.Declension.Replay
import Conlang.Proofs.Syllable.Building
import Conlang.Proofs.Syllable.Cutting
import Conlang.Proofs.Paradigm.Suppression
import Conlang.Proofs.RuleSet.Copying
import Conlang.Proofs.RuleSet.HiddenForms
import Conlang.Proofs.Text.Runs
import Conlang.Proofs.Sound.Saying
import Conlang.Proofs.Sound.Composition
import Conlang.Proofs.Pattern.Usable
import Conlang.Proofs.Declension.Cleaning
import Conlang.Proofs.Sound.Cleaning
import Conlang.Proofs.Report.Validation
import Conlang.Proofs.Pattern.Programs
import Conlang.Proofs.Pattern.Reading
import Conlang.Proofs.Pattern.Following
import Conlang.Proofs.Pattern.Framing
import Conlang.Proofs.Pattern.Spans
import Conlang.Proofs.Pattern.States
import Conlang.Proofs.Pattern.Exploring
import Conlang.Proofs.Pattern.Placing
import Conlang.Proofs.Pattern.Compiling
import Conlang.Proofs.Pattern.Anchoring
import Conlang.Proofs.RuleSet.Refusal
import Conlang.Proofs.Declension.Table
import Conlang.Proofs.Pattern.Scanning
import Conlang.Proofs.Pattern.Tokens
import Conlang.Proofs.Pattern.Passing
import Conlang.Proofs.Pattern.Cutting
import Conlang.Proofs.Pattern.Looking
import Conlang.Proofs.Pattern.Slicing
import Conlang.Proofs.Pattern.Bracketing
import Conlang.Proofs.Pattern.Legality
import Conlang.Proofs.RuleSet.Insertion
import Conlang.Proofs.RuleSet.Issuing
import Conlang.Proofs.Paradigm.Spelling
import Conlang.Proofs.Definition.Consistency
import Conlang.Proofs.Definition.Inflection
import Conlang.Proofs.Definition.Syllables
import Conlang.Proofs.Definition.Acceptance
import Conlang.Proofs.Definition.Composition
import Conlang.Proofs.Paradigm.Encoding
import Conlang.Proofs.Paradigm.Grammar
import Conlang.Proofs.RuleSet.Shifting
import Conlang.Proofs.RuleSet.Moving
import Conlang.Proofs.RuleSet.Deleting
import Conlang.Proofs.RuleSet.Equivalence
import Conlang.Proofs.Language.Deleting
import Conlang.Proofs.Text.Replacing
import Conlang.Proofs.RuleSet.Evolution
import Conlang.Proofs.RuleSet.Reachable
import Conlang.Proofs.RuleSet.Interchange
import Conlang.Proofs.Sound.Rescanning
import Conlang.Proofs.Sound.Warning
import Conlang.Proofs.Syllable.LongestFirst
import Conlang.Proofs.Syllable.Parentheses
import Conlang.Proofs.Pattern.Splicing
import Conlang.Proofs.Pattern.Templates
import Conlang.Proofs.Pattern.Advancing
import Conlang.Proofs.Pattern.Scopes
import Conlang.Proofs.Text.Caseless
import Conlang.Proofs.Pattern.Caching
import Conlang.Proofs.Pattern.Resuming
import Conlang.Proofs.Pattern.Failing
import Conlang.Proofs.Pattern.Numbering
import Conlang.Proofs.Pattern.Registers
