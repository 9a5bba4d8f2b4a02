import Munch.Highlight
import Munch.Ini
import Munch.Trace
import Munch.Workspace
import Munch.Proofs.Session.LongestMatch
import Munch.Proofs.Session.Order
import Munch.Proofs.Session.Coverage
import Munch.Proofs.Ini.Documents
import Munch.Proofs.Ini.Reader
import Munch.Proofs.Ini.Returns
import Munch.Proofs.Highlight.Lexemes
import Munch.Proofs.Highlight.Markup
import Munch.Proofs.Session.Tokens
import Munch.Proofs.Session.Location
import Munch.Proofs.Session.Stream
import Munch.Proofs.Workspace
import Munch.Proofs.Session.Removal
import Munch.Proofs.Needle
import Munch.Proofs.Session.Verbatim
import Munch.Proofs.Matcher.Offsets
import Munch.Proofs.Session.Searches
import Munch.Proofs.Regex.Escaped
import Munch.Proofs.Regex.Directive
import Munch.Proofs.Session.Groups
import Munch.Proofs.Matcher.Erasure
import Munch.Proofs.Session.SizeHint
import Munch.Proofs.Ini.BadLines
import Munch.Proofs.Tokenizer.Build
import Munch.Proofs.Pattern
import Munch.Proofs.Session.Config
