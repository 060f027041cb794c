import VncAccess.System.Errno
import VncAccess.System.Path

/-!
How a request can fail. An `AccessError` is a failure that the tool reports to the operator in its
own words; `Failure` adds what the system, the operator or a value may bring about.
-/

namespace VncAccess

/-! ## Reported failures -/

inductive Category where
  | usage
  | environment
  | settingsFile
  | settingsValue
  | passwordTooShort
  | username
  | inputClosed
  | fileAccess
  | noDisplay
  | unsupported
  deriving DecidableEq, Repr

inductive AccessError where
  | usage (message : Text)
  | environment (name reason : Text)
  | settingsFile (path detail : Text)
  | settingsValue (key reason : Text)
  | passwordTooShort
  | username (message : Text)
  | inputClosed (message : Text)
  | fileAccess (path : Path) (reason : Text)
  | noDisplay (display : Text)
  | unsupported (display key feature : Text)
  deriving DecidableEq, Repr

namespace AccessError

def category : AccessError → Category
  | usage _ => .usage
  | environment .. => .environment
  | settingsFile .. => .settingsFile
  | settingsValue .. => .settingsValue
  | passwordTooShort => .passwordTooShort
  | username _ => .username
  | inputClosed _ => .inputClosed
  | fileAccess .. => .fileAccess
  | noDisplay _ => .noDisplay
  | unsupported .. => .unsupported

def message : AccessError → Text
  | usage m | username m | inputClosed m => m
  | environment _ reason | fileAccess _ reason => reason
  | settingsFile path detail => "Invalid config at " ++ path ++ ": " ++ detail
  | settingsValue key reason => "Invalid config value for '" ++ key ++ "': " ++ reason
  | passwordTooShort => "Password too short"
  | noDisplay display => "unable to open display \"" ++ display ++ "\""
  | unsupported display _ feature =>
    "The X display \"" ++ display ++ "\" does not support " ++ feature

end AccessError

/-! ## Values without an answer -/

/-- A value that an operation has no answer for. -/
inductive ValueFault where
  | passwordTooLong
  | slotLength (length : Nat)
  | overCapacity (length : Nat) (capacity : Int)
  | embeddedNul
  /-- A settings file holds a decimal numeral of more than 4300 digits. -/
  | numeralTooLong (digits : Nat)
  deriving DecidableEq, Repr

def ValueFault.message : ValueFault → Text
  | passwordTooLong => "password longer than 8 bytes"
  | slotLength n => "ciphertext must be 8 bytes, got " ++ Decimal.natural n
  | overCapacity n capacity =>
    Decimal.natural n ++ " bytes exceed buffer capacity of " ++ Decimal.integer capacity
  | embeddedNul => "embedded null byte"
  | numeralTooLong n =>
    "Exceeds the limit (4300 digits) for integer string conversion: value has " ++
      Decimal.natural n ++ " digits; use sys.set_int_max_str_digits() to increase the limit"

/-! ## All failures -/

inductive Failure where
  | refused (e : AccessError)
  | badValue (fault : ValueFault)
  /-- A system call failed, perhaps without an error number. -/
  | system (errno : Option Errno)
  /-- The operator pressed the interrupt key. -/
  | interrupted
  /-- Text with stray bytes has no UTF-8 form. -/
  | unencodable
  /-- Bytes that had to be UTF-8 are not. -/
  | undecodable
  /-- An operation was given a value of a kind that it does not take. -/
  | mistyped
  /-- A document nests its values deeper than they are read. -/
  | nestedTooDeep
  /-- A home directory was asked for that nobody has. -/
  | homeless
  deriving DecidableEq, Repr

end VncAccess
