import ScopeProbe.Listing
import ScopeProbe.Mana.LineLexer
import ScopeProbe.Proofs.Mana.Tiling
import ScopeProbe.Proofs.Runs
import ScopeProbe.Proofs.Spans
import ScopeProbe.Proofs.Vocabulary
import ScopeProbe.Session
import ScopeProbe.Taxonomy
import ScopeProbe.Proofs.Mana.Events
import ScopeProbe.Proofs.Readings
import ScopeProbe.Proofs.Mana.Surroundings
import ScopeProbe.Proofs.Mana.Identifiers
import ScopeProbe.Proofs.Mana.Totality
import ScopeProbe.Proofs.Registry.Stability
import ScopeProbe.Proofs.Registry.Recovery
import ScopeProbe.Proofs.Registry.Runs
import ScopeProbe.Proofs.Registry.Isolation
import ScopeProbe.Proofs.Registry.Interleaving
import ScopeProbe.Proofs.Fragments
import ScopeProbe.Proofs.LineEnds
import ScopeProbe.Proofs.DefaultRegistry
import ScopeProbe.Proofs.Carriers
import ScopeProbe.Proofs.Mana.Edges
import ScopeProbe.Proofs.Mana.Spelling
import ScopeProbe.Proofs.Mana.HashSigns
import ScopeProbe.Proofs.Sessions.Histories
import ScopeProbe.Proofs.Sessions.LifeCycle
import ScopeProbe.Proofs.Sessions.Gathering
import ScopeProbe.Proofs.GrammarFiles
import ScopeProbe.Proofs.ConfigFiles
import ScopeProbe.Proofs.Newlines
import ScopeProbe.Proofs.Mana.BlockComments
import ScopeProbe.Proofs.Mana.Code
import ScopeProbe.Proofs.Mana.Numerals
import ScopeProbe.Proofs.Mana.StringLiterals
import ScopeProbe.Proofs.Mana.LongestMatch
import ScopeProbe.Proofs.Mana.PreprocessorLines
import ScopeProbe.Proofs.Quoting
import ScopeProbe.Proofs.Listings
import ScopeProbe.Proofs.Diagnostics
import ScopeProbe.Proofs.Settings
import ScopeProbe.Proofs.EngineFactories
