import Phrasebook.Lexer.Percent
import Phrasebook.Settings.Sources
import Phrasebook.Workspace.Messages
import Phrasebook.Proofs.Binder.Highest
import Phrasebook.Proofs.Binder.History
import Phrasebook.Proofs.Lexer.Reference
import Phrasebook.Proofs.Lexer.Tokenization
import Phrasebook.Proofs.Rendering.Outcome
import Phrasebook.Proofs.Rendering.Rules
import Phrasebook.Proofs.Rendering.Raising
import Phrasebook.Proofs.Rendering.Following
import Phrasebook.Proofs.Messages.Equipment
import Phrasebook.Proofs.Messages.Checking
import Phrasebook.Proofs.Rendering.Stopping
import Phrasebook.Proofs.Rendering.OwnText
import Phrasebook.Proofs.Rendering.Precedence
import Phrasebook.Proofs.Workspace.Catalogue
import Phrasebook.Proofs.Workspace.Effects
import Phrasebook.Proofs.Workspace.Operations
import Phrasebook.Proofs.Workspace.Consistency
import Phrasebook.Proofs.Workspace.Freshness
import Phrasebook.Proofs.Workspace.Refusals
import Phrasebook.Proofs.Rendering.Generators
import Phrasebook.Proofs.Workspace.Calls
import Phrasebook.Proofs.Workspace.Draws
import Phrasebook.Proofs.Binder.Families
import Phrasebook.Proofs.Binder.Pushing
import Phrasebook.Proofs.Binder.Reordering
import Phrasebook.Proofs.Rendering.Families
import Phrasebook.Proofs.Lexer.Overlap
import Phrasebook.Proofs.Lexer.Printing
import Phrasebook.Proofs.Lexicon.Recall
import Phrasebook.Proofs.Rendering.Spelling
import Phrasebook.Proofs.Rendering.Agreement
import Phrasebook.Proofs.Rendering.Accounts
import Phrasebook.Proofs.Lexicon.Suggestion
import Phrasebook.Proofs.Json.Sorted
import Phrasebook.Proofs.Binder.Documents
import Phrasebook.Proofs.Settings.Merging
import Phrasebook.Proofs.Toml.Documents
import Phrasebook.Proofs.Settings.Layers
import Phrasebook.Proofs.Settings.Delimiters
import Phrasebook.Proofs.Settings.Saving
import Phrasebook.Proofs.Lexer.Lexemes
