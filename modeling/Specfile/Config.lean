import Specfile.Data
import Specfile.Entry
import Specfile.Files.Disk
import Specfile.Text.Blank

/-! Configurations: the packager's name and email and the default message of an entry. A
setting counts only when it is a text in its section and not blank, and is trimmed. -/

set_option autoImplicit false

namespace Specfile

structure Config where
  name : Option Text := none
  email : Option Text := none
  message : Option Text := none
  deriving DecidableEq, Repr

namespace Config

def identity? (config : Config) : Option Identity :=
  match config.name, config.email with
  | some name, some email => if name = [] ∨ email = [] then none else some { name, email }
  | _, _ => none

/-- The entries under a key that holds a mapping of texts; anything else counts as no entries. -/
def section? (mapping : Mapping) (key : Text) : Mapping :=
  match mapping.get? key with
  | some (.mapping entries) => if Mapping.hasTextKeys entries then entries else []
  | _ => []

def setting? (mapping : Mapping) (key : Text) : Option Text :=
  match mapping.get? key with
  | some (.text text) => if text.trim = [] then none else some text.trim
  | _ => none

def ofMapping (mapping : Mapping) : Config :=
  let identity := section? mapping "identity".toList
  let changelog := section? mapping "changelog".toList
  { name := setting? identity "name".toList
    email := setting? identity "email".toList
    message := setting? changelog "message".toList }

def decodeMessage (refusal : Utf8.Refusal) : Text :=
  let place :=
    if refusal.span = 1 then
      "byte 0x".toList ++ Text.hexDigits 2 refusal.byte.toNat
        ++ " in position ".toList ++ Numeral.decimal refusal.offset
    else
      "bytes in position ".toList ++ Numeral.decimal refusal.offset ++ '-'
        :: Numeral.decimal (refusal.offset + refusal.span - 1)
  "Error reading config: 'utf-8' codec can't decode ".toList ++ place
    ++ ": ".toList ++ refusal.reason.message

/-- Loads the configuration from what reading its path gave. Missing files, directories
and missing permissions are problems; any other refusal of the system is a fault. -/
def ofRead (reader : Data.Reader) (path : Path) (result : Except ReadRefusal Bytes) :
    Except Failure Config :=
  let unusable (message : Text) : Except Failure Config :=
    .error (.problem (.configUnusable (some path) message))
  match result with
  | .error .nullInPath => .error (.fault .nullInPath)
  | .error (.system errno attached) =>
    match errno with
    | .notFound => unusable ("Config file not found: ".toList ++ path.text)
    | .accessDenied | .notPermitted =>
      unusable ("Permission denied reading: ".toList ++ path.text)
    | .isDirectory => unusable ("Config path is a directory: ".toList ++ path.text)
    | errno => .error (.fault (.system errno attached))
  | .ok bytes =>
    match Utf8.decode bytes with
    | .error refusal => unusable (decodeMessage refusal)
    | .ok text =>
      match reader text with
      | .error (.malformed detail) => unusable ("Invalid TOML syntax: ".toList ++ detail)
      | .error (.broken fault) => .error (.fault fault)
      | .ok mapping =>
        if mapping.hasTextKeys then .ok (ofMapping mapping)
        else unusable "Config root must be a TOML table".toList

end Config

end Specfile
