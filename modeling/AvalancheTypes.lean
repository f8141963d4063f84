import AvalancheTypes.Bytes.Lex
import AvalancheTypes.Bytes.BigEndian
import AvalancheTypes.Hash.Sha256
import AvalancheTypes.Hash.Ripemd160
import AvalancheTypes.Formatting.Base58
import AvalancheTypes.Formatting.Cb58
import AvalancheTypes.Ids.Basic
import AvalancheTypes.Ids.TextForm
import AvalancheTypes.Ids.Collections
import AvalancheTypes.Ids.Order
import AvalancheTypes.Ids.Serde
import AvalancheTypes.Derivation.Packer
import AvalancheTypes.Derivation.Prefix
import AvalancheTypes.Derivation.Certificate
import AvalancheTypes.Invariants
import AvalancheTypes.CanonicalText
