import Nomen.Main
import Nomen.Proofs.Appending
import Nomen.Proofs.Commands
import Nomen.Proofs.Counters
import Nomen.Proofs.MemberOrder
import Nomen.Proofs.Modifiers
import Nomen.Proofs.Numbering
import Nomen.Proofs.Renumbering
import Nomen.Proofs.Rules
import Nomen.Proofs.Shadowing
import Nomen.Proofs.Splitting
import Nomen.Proofs.Traversal
import Nomen.Proofs.Words
import Nomen.Proofs.Writing
