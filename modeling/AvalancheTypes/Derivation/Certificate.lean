import AvalancheTypes.Hash.Ripemd160
import AvalancheTypes.Ids.Basic

/-! The certificate to `NodeId` pipeline of `from_cert_file` and `from_cert_raw`: the node
identifier holds the RIPEMD-160 of the SHA-256 of the certificate's DER bytes. Finding the
file and reading its first PEM item is the file system's part, which `from_cert_file` reads
through `FileSystem`.
-/

namespace AvalancheTypes

/-- The kinds of `io::Error` that `from_cert_file` returns: `NotFound`, which it creates, and
the kinds of the errors it passes through from opening and reading the file.
-/
inductive ErrorKind
  | notFound
  | other
  deriving DecidableEq, Repr

/-- An `io::Error`: its kind and its message. -/
structure IoError where
  kind : ErrorKind
  message : String
  deriving DecidableEq, Repr

/-- Modelled from the spec: an item of a PEM file as `rustls_pemfile::read_one` returns it,
which is not under src/. A certificate carries its DER bytes; the keys' contents are not read.
-/
inductive Item
  | x509Certificate (der : List UInt8)
  | rsaKey
  | pkcs8Key
  | ecKey
  | unknown
  deriving DecidableEq, Repr

/-- What `from_cert_file` reads of the file system: whether a path exists, and what opening the
file and reading its first PEM item returns, `none` when it holds no PEM item.
-/
structure FileSystem where
  pathExists : String → Bool
  readOne : String → Except IoError (Option Item)

/-- Modelled from the spec: `soft_key::bytes_to_short_address_bytes` is not under src/; it is
`RIPEMD-160(SHA-256(bytes))`, spec section 4.3.
-/
def bytesToShortAddressBytes (certRaw : List UInt8) : List UInt8 :=
  Hash.computeRipemd160 (Hash.computeSha256 certRaw)

/-- `NodeId::from_cert_raw`: `from_slice` of the short address. -/
def NodeId.fromCertRaw (certRaw : List UInt8) : Option (Except IoError NodeId) :=
  (NodeId.fromSlice (bytesToShortAddressBytes certRaw)).map .ok

/-- `NodeId::from_cert_file`: a path that does not exist is `NotFound`; an error opening or
reading the file is passed on; `pem_read.unwrap()` panics on a file with no PEM item; a first
item that is not a certificate is `NotFound`.
-/
def NodeId.fromCertFile (fs : FileSystem) (certFilePath : String)
    : Option (Except IoError NodeId) :=
  if fs.pathExists certFilePath then
    match fs.readOne certFilePath with
    | .error e => some (.error e)
    | .ok none => none
    | .ok (some (.x509Certificate cert)) => NodeId.fromCertRaw cert
    | .ok (some _) =>
        some (.error ⟨.notFound, "cert path " ++ certFilePath ++ " found no cert"⟩)
  else some (.error ⟨.notFound, "cert path " ++ certFilePath ++ " does not exists"⟩)

-----------------------------------------------------------------------------------------
-- From the certificate's bytes
-----------------------------------------------------------------------------------------

@[simp]
theorem length_bytesToShortAddressBytes (certRaw : List UInt8)
    : (bytesToShortAddressBytes certRaw).length = NODE_ID_LEN := by
  simp [bytesToShortAddressBytes, NODE_ID_LEN]

/-- `from_cert_raw` never panics: the short address has the 20 bytes that `from_slice`'s
`assert_eq!` asks for.
-/
theorem NodeId.fromCertRaw_eq (certRaw : List UInt8)
    : NodeId.fromCertRaw certRaw = some (.ok ⟨bytesToShortAddressBytes certRaw⟩) := by
  simp [NodeId.fromCertRaw, NodeId.fromSlice, ← NODE_ID_LEN_eq_SHORT_ID_LEN]

-----------------------------------------------------------------------------------------
-- From the certificate's file
-----------------------------------------------------------------------------------------

/-- The outcomes of `from_cert_file` on one file system and path: it returns a node
identifier exactly when the file's first PEM item is a certificate, and then the one of its
short address; it panics exactly when the file exists and holds no PEM item; and every error
it returns is one of the two `NotFound` errors naming the path or the error of reading the
file.
-/
structure CertFileOutcomes (fs : FileSystem) (certFilePath : String) : Prop where
  ok_iff : ∀ z, NodeId.fromCertFile fs certFilePath = some (.ok z)
    ↔ fs.pathExists certFilePath ∧ ∃ der,
        fs.readOne certFilePath = .ok (some (.x509Certificate der))
        ∧ z = ⟨bytesToShortAddressBytes der⟩
  panics_iff : NodeId.fromCertFile fs certFilePath = none
    ↔ fs.pathExists certFilePath ∧ fs.readOne certFilePath = .ok none
  errors : ∀ e, NodeId.fromCertFile fs certFilePath = some (.error e) →
    e = ⟨.notFound, "cert path " ++ certFilePath ++ " does not exists"⟩
    ∨ e = ⟨.notFound, "cert path " ++ certFilePath ++ " found no cert"⟩
    ∨ fs.readOne certFilePath = .error e

/-- `from_cert_file` has these outcomes on every file system and path; witness: a case split
on what the file system returns.
-/
theorem NodeId.fromCertFile_outcomes (fs : FileSystem) (certFilePath : String)
    : CertFileOutcomes fs certFilePath := by
  constructor
  all_goals
    unfold NodeId.fromCertFile
    cases fs.pathExists certFilePath
    case false => simp
    case true =>
      cases fs.readOne certFilePath with
      | error e => simp
      | ok item => rcases item with _ | _ | _ | _ | _ | _ <;> simp [NodeId.fromCertRaw_eq, eq_comm]

end AvalancheTypes
