import Dialogue.Encoding.Name
import Dialogue.Json

/-!
# Settings

* `WatchConfig`: how a stream is watched, with setters and its form in JSON;
* `Windows`: how much of each output stream is kept, with setters and its form in JSON;
* `Encoding.ofJson?`.
-/

namespace Dialogue

def Encoding.ofName? (name : Text) : Option Encoding :=
  if name = Text.lit "utf-8" ∨ name = Text.lit "utf8" then some .utf8
  else if name = Text.lit "utf-8-lossy" then some .utf8Lossy
  else if name = Text.lit "latin-1" ∨ name = Text.lit "iso-8859-1" then some .latin1
  else none

/-- An encoding is written as its name, or as an object with the name as its only key and `null` under it. -/
def Encoding.ofJson? : Json → Option Encoding
  | .string (some name) => ofName? name
  | .object [(some name, .null)] => ofName? name
  | _ => none

/-- How a stream is watched: its encoding, which is also that of the replies; the number of bytes that one read asks
for, and of those set aside for pending text; and whether control sequences are left out. -/
structure WatchConfig where
  encoding : Encoding
  readSize : Nat
  textCapacity : Nat
  strip : Bool
  deriving DecidableEq, Repr

namespace WatchConfig

/-- UTF-8 in reads of 8192 bytes, with control sequences kept. -/
def default : WatchConfig := ⟨.utf8, 8192, 8192, false⟩

def withEncoding (c : WatchConfig) (encoding : Encoding) : WatchConfig := { c with encoding }

/-- Sets the number of bytes asked for by one read, at least one. -/
def withReadSize (c : WatchConfig) (n : Nat) : WatchConfig := { c with readSize := max n 1 }

def withTextCapacity (c : WatchConfig) (textCapacity : Nat) : WatchConfig := { c with textCapacity }

def withStrip (c : WatchConfig) (strip : Bool) : WatchConfig := { c with strip }

def names : List Text :=
  [Text.lit "encoding", Text.lit "read_buffer_size", Text.lit "token_capacity", Text.lit "strip_ansi"]

/-- The settings that a JSON record writes; what it leaves out keeps its default. -/
def ofJson? (j : Json) : Option WatchConfig := do
  match ← j.record? names with
  | [encoding, readSize, textCapacity, strip] =>
    return ⟨← encoding.elim (some default.encoding) Encoding.ofJson?,
      ← readSize.elim (some default.readSize) Json.toWord?,
      ← textCapacity.elim (some default.textCapacity) Json.toWord?,
      ← strip.elim (some default.strip) Json.toBool?⟩
  | _ => none

end WatchConfig

/-- How many bytes of each output stream are kept; everything when there is no number. -/
structure Windows where
  stdout : Option Nat
  stderr : Option Nat
  deriving DecidableEq, Repr

namespace Windows

/-- Keeps everything. -/
def default : Windows := ⟨none, none⟩

def withStdout (w : Windows) (n : Nat) : Windows := { w with stdout := some n }

def withStderr (w : Windows) (n : Nat) : Windows := { w with stderr := some n }

/-- A window in JSON: a number, or `null` for none. -/
def windowOfJson? : Json → Option (Option Nat)
  | .null => some none
  | j => j.toWord?.map some

/-- The windows that a JSON record writes; what it leaves out keeps everything. -/
def ofJson? (j : Json) : Option Windows := do
  match ← j.record? [Text.lit "stdout", Text.lit "stderr"] with
  | [stdout, stderr] =>
    return ⟨← stdout.elim (some none) windowOfJson?, ← stderr.elim (some none) windowOfJson?⟩
  | _ => none

end Windows

end Dialogue
