import RightLinear.Automaton.Diagram
import RightLinear.Automaton.Document
import RightLinear.Automaton.Subset
import RightLinear.Collection.Load
import RightLinear.Conversion
import RightLinear.Demo
import RightLinear.File.Tree
import RightLinear.Grammar.Document
import RightLinear.Grammar.Sentence
import RightLinear.Grammar.Summary
import RightLinear.LogLevel
import RightLinear.Main
import RightLinear.Proofs.Automaton.Acceptance
import RightLinear.Proofs.Automaton.Blocks
import RightLinear.Proofs.Automaton.Comments
import RightLinear.Proofs.Automaton.Determinism
import RightLinear.Proofs.Automaton.Diagram
import RightLinear.Proofs.Automaton.Document
import RightLinear.Proofs.Automaton.Drawing
import RightLinear.Proofs.Automaton.Format
import RightLinear.Proofs.Automaton.FreshName
import RightLinear.Proofs.Automaton.Labels
import RightLinear.Proofs.Automaton.Lines
import RightLinear.Proofs.Automaton.Path
import RightLinear.Proofs.Automaton.UniqueRuns
import RightLinear.Proofs.Collection.Arrows
import RightLinear.Proofs.Collection.Automata
import RightLinear.Proofs.Collection.Changes
import RightLinear.Proofs.Collection.Detect
import RightLinear.Proofs.Collection.Grammars
import RightLinear.Proofs.Collection.Merge
import RightLinear.Proofs.Collection.Overwriting
import RightLinear.Proofs.Collection.Sections
import RightLinear.Proofs.Collection.Transitions
import RightLinear.Proofs.Conversion.Chain
import RightLinear.Proofs.Conversion.DeadEnd
import RightLinear.Proofs.Conversion.Listing
import RightLinear.Proofs.Conversion.ToAutomaton
import RightLinear.Proofs.Conversion.ToGrammar
import RightLinear.Proofs.Grammar.Arrows
import RightLinear.Proofs.Grammar.Blanks
import RightLinear.Proofs.Grammar.Capitals
import RightLinear.Proofs.Grammar.Classification
import RightLinear.Proofs.Grammar.Document
import RightLinear.Proofs.Grammar.Draws
import RightLinear.Proofs.Grammar.Exactness
import RightLinear.Proofs.Grammar.Faults
import RightLinear.Proofs.Grammar.Format
import RightLinear.Proofs.Grammar.Gathering
import RightLinear.Proofs.Grammar.Generation
import RightLinear.Proofs.Grammar.LeftSides
import RightLinear.Proofs.Grammar.Lines
import RightLinear.Proofs.Grammar.Printing
import RightLinear.Proofs.Grammar.Reading
import RightLinear.Proofs.Grammar.Scanning
import RightLinear.Proofs.Grammar.Spelling
import RightLinear.Proofs.Grammar.Splitting
import RightLinear.Proofs.Grammar.Tokens
import RightLinear.Proofs.Session.Conversation
import RightLinear.Proofs.Session.Frame
import RightLinear.Proofs.Session.Generating
import RightLinear.Proofs.Session.Names
import RightLinear.Proofs.Subset.CanonicalNames
import RightLinear.Proofs.Subset.Language
import RightLinear.Proofs.Subset.Naming
import RightLinear.Proofs.Subset.Powerset
import RightLinear.Proofs.Subset.Relabelling
import RightLinear.Proofs.Text.Arrows
import RightLinear.Proofs.Text.Lines
import RightLinear.Proofs.Text.Marks
import RightLinear.Proofs.Text.Replace
import RightLinear.Proofs.Text.Split
import RightLinear.Proofs.Traversal
import RightLinear.Registry
import RightLinear.Session.Console
import RightLinear.SortedSet
import RightLinear.Text.Lowercase
import RightLinear.Text.Numeral
