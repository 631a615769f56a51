import Stepwise.Json.Decode
import Stepwise.Toml.Reader

/-!
# Settings

What the user may set: the compiler, its flags, where its system headers are, and how deep a
running program follows pointers when it shows its heap.  Settings are written as a TOML file in
which every key may be missing.

Main definitions:

* `Settings.read?`, `Settings.text`: settings out of a file, and as one (`EngineConfig`, `load` and
  `save`);
* `Settings.arguments`: the command line of the compiler (`CommandToolchain`, `arguments`).
-/

namespace Stepwise

/-- The settings of the debugger. -/
structure Settings where
  /-- The compiler. -/
  compiler : Text := "clang++"
  /-- The flags that come before anything else. -/
  flags : List Text :=
    ["--target=wasm32-wasi", "-std=c++17", "-O0", "-fno-exceptions", "-Wl,--allow-undefined"]
  /-- The directory of the system headers, if the compiler does not know it. -/
  sysroot : Option Text := none
  /-- How deep pointers are followed. -/
  heapDepthLimit : Nat := 50
  deriving DecidableEq, Repr

namespace Settings

/-- The bound of the depth: it is a 64-bit number. -/
def depthBound : Nat := UInt64.size

/-- The name of the settings file in the home directory. -/
def fileName : Text := ".cppstep.toml"

/-! ## 1. Files -/

/-- A string of a document. -/
def string? : Toml → Option Text
  | .string s => some s
  | _ => none

/-- An array of strings of a document. -/
def strings? : Toml → Option (List Text)
  | .array items => items.mapM string?
  | _ => none

/-- A depth of a document. -/
def depth? : Toml → Option Nat
  | .integer (.ofNat n) => if n < depthBound then some n else none
  | _ => none

/-- The value under a key, or the default if it is missing; nothing if it has another form. -/
def valueOr {α : Type} (entries : Toml.Entries) (key : Text) (form : Toml → Option α)
    (default : α) : Option α :=
  match entries.lookup key with
  | none => some default
  | some x => form x

/-- The settings of a document; keys that mean nothing are passed over. -/
def ofToml? (entries : Toml.Entries) : Option Settings := do
  let standard : Settings := {}
  return {
    compiler := ← valueOr entries "compiler" string? standard.compiler
    flags := ← valueOr entries "flags" strings? standard.flags
    sysroot := ← valueOr entries "sysroot" (fun x => (string? x).map some) standard.sysroot
    heapDepthLimit := ← valueOr entries "heap_depth_limit" depth? standard.heapDepthLimit }

/-- The settings of a file. -/
def read? (t : Text) : Option Settings := (Toml.read? t).bind ofToml?

/-- The settings as a file. -/
def text (s : Settings) : Text :=
  Toml.assignment "compiler" (Toml.quote s.compiler)
    ++ Toml.assignment "flags" (Toml.quoteAll s.flags)
    ++ (s.sysroot.map fun d => Toml.assignment "sysroot" (Toml.quote d)).getD []
    ++ Toml.assignment "heap_depth_limit" (Text.ofNat s.heapDepthLimit)

/-- The names of the settings as members of an object, in order. -/
def memberNames : List Text := ["compiler", "flags", "sysroot", "heap_depth_limit"]

/-- The settings as an object. -/
def toJson (s : Settings) : Json :=
  .object (memberNames.zip
    [.string s.compiler, Json.ofList .string s.flags, Json.ofOption .string s.sysroot,
     Json.ofNat s.heapDepthLimit])

/-- The settings that a value describes; every member may be missing. -/
def ofJson? (x : Json) : Option Settings := do
  let standard : Settings := {}
  let orElse {α : Type} (item : Json → Option α) (default : α) : Option Json → Option α
    | none => some default
    | some x => item x
  match ← Json.fields? memberNames memberNames.length x with
  | [compiler, flags, sysroot, depth] =>
    return {
      compiler := ← orElse Json.text? standard.compiler compiler
      flags := ← orElse (Json.list? Json.text?) standard.flags flags
      sysroot := ← Json.allow Json.text? sysroot
      heapDepthLimit := ← orElse (Json.nat? depthBound) standard.heapDepthLimit depth }
  | _ => none

/-! ## 2. The command line of the compiler -/

/-- The settings with another compiler and everything else as usual. -/
def withCompiler (compiler : Text) : Settings := { compiler }

/-- The arguments for one compilation: the flags of the settings, the places of the headers, the
depth for the program, further flags, the source and the output. -/
def arguments (s : Settings) (headers source output : Text) (extra : List Text) : List Text :=
  s.flags
    ++ (s.sysroot.map fun d : Text => ("--sysroot=" : Text) ++ d).toList
    ++ (["-I" ++ headers, "-DCPPSTEP_HEAP_DEPTH=" ++ Text.ofNat s.heapDepthLimit] : List Text)
    ++ extra
    ++ ([source, "-o", output] : List Text)

/-- The last arguments name the source and the output. -/
theorem source_output_suffix (s : Settings) (headers source output : Text) (extra : List Text) :
    [source, "-o", output] <:+ s.arguments headers source output extra :=
  List.suffix_append _ _

end Settings

end Stepwise
