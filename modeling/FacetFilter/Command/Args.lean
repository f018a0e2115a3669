import FacetFilter.Facet.Toggle

/-! The command line. Arguments are read from left to right, and the first one that asks for
help or cannot be accepted decides. -/

namespace FacetFilter

inductive Shell where
  | bash
  | elvish
  | fish
  | powershell
  | zsh
deriving DecidableEq, Repr

def Shell.ofName? (name : String) : Option Shell :=
  match name with
  | "bash" => some .bash
  | "elvish" => some .elvish
  | "fish" => some .fish
  | "powershell" => some .powershell
  | "zsh" => some .zsh
  | _ => none

inductive Command where
  /-- Shows the filters of a page, and the panel where counts are given. -/
  | display (url? : Option String) (countsPath? : Option String)
  /-- Flips values and prints the URL that follows. -/
  | apply (url? : Option String) (toggles : List Toggle) (byInsertion : Bool)
  | completions (shell : Shell)
  | man
deriving DecidableEq, Repr

inductive Invocation where
  | run (c : Command)
  | help
  | rejected
deriving DecidableEq, Repr

namespace Invocation

/-- An argument by its form. -/
inductive Form where
  /-- The two dashes that end the options. -/
  | dashes
  /-- An option with two dashes, and the value after an equals sign in it. -/
  | long (name : List Char) (attached? : Option String)
  /-- Options with one dash. -/
  | short (letters : List Char)
  | plain

def form (arg : String) : Form :=
  match arg.toList with
  | ['-', '-'] => .dashes
  | '-' :: '-' :: rest =>
    let (name, attached?) := Text.cut '=' rest
    .long name (attached?.map String.ofList)
  | '-' :: letter :: letters => .short (letter :: letters)
  | _ => .plain

/-- Whether an argument can be the value of the option before it. -/
def isPlain (arg : String) : Bool := form arg matches .plain

/-- Whether an argument asks for help. -/
def asksHelp : Form → Bool
  | .long name none => name == "help".toList
  | .short letters => letters.head? == some 'h'
  | _ => false

/-- The options of `show`. -/
def displayArgs (url? counts? : Option String) : List String → Invocation
  | [] => .run (.display url? counts?)
  | arg :: rest =>
    match form arg with
    | .dashes => if rest.isEmpty then .run (.display url? counts?) else .rejected
    | .long name attached? =>
      if name = "url".toList ∧ url?.isNone then
        match attached?, rest with
        | some v, rest => displayArgs (some v) counts? rest
        | none, v :: rest => if isPlain v then displayArgs (some v) counts? rest else .rejected
        | none, [] => .rejected
      else if name = "facets".toList ∧ counts?.isNone then
        match attached?, rest with
        | some v, rest => displayArgs url? (some v) rest
        | none, v :: rest => if isPlain v then displayArgs url? (some v) rest else .rejected
        | none, [] => .rejected
      else if asksHelp (.long name attached?) then .help
      else .rejected
    | f => if asksHelp f then .help else .rejected

/-- The options of `apply`; toggles are gathered last first. -/
def applyArgs (url? : Option String) (toggles : List Toggle) (byInsertion : Bool) :
    List String → Invocation
  | [] => .run (.apply url? toggles.reverse byInsertion)
  | arg :: rest =>
    match form arg with
    | .dashes =>
      if rest.isEmpty then .run (.apply url? toggles.reverse byInsertion) else .rejected
    | .long name attached? =>
      if name = "url".toList ∧ url?.isNone then
        match attached?, rest with
        | some v, rest => applyArgs (some v) toggles byInsertion rest
        | none, v :: rest =>
          if isPlain v then applyArgs (some v) toggles byInsertion rest else .rejected
        | none, [] => .rejected
      else if name = "toggle".toList then
        match attached?, rest with
        | some v, rest =>
          match Toggle.parse v with
          | .ok t => applyArgs url? (t :: toggles) byInsertion rest
          | .error _ => .rejected
        | none, v :: rest =>
          match isPlain v, Toggle.parse v with
          | true, .ok t => applyArgs url? (t :: toggles) byInsertion rest
          | _, _ => .rejected
        | none, [] => .rejected
      else if name = "insertion-order".toList ∧ attached?.isNone ∧ !byInsertion then
        applyArgs url? toggles true rest
      else if asksHelp (.long name attached?) then .help
      else .rejected
    | f => if asksHelp f then .help else .rejected

/-- The argument of `completions`. -/
def completionsArgs (shell? : Option Shell) : List String → Invocation
  | [] => match shell? with
    | some shell => .run (.completions shell)
    | none => .rejected
  | arg :: rest =>
    match form arg, shell?, rest with
    | .plain, none, rest =>
      match Shell.ofName? arg with
      | some shell => completionsArgs (some shell) rest
      | none => .rejected
    | .dashes, some shell, [] => .run (.completions shell)
    | .dashes, none, [name] =>
      match Shell.ofName? name with
      | some shell => .run (.completions shell)
      | none => .rejected
    | f, _, _ => if asksHelp f then .help else .rejected

def manArgs : List String → Invocation
  | [] => .run .man
  | arg :: rest =>
    match form arg, rest with
    | .dashes, [] => .run .man
    | f, _ => if asksHelp f then .help else .rejected

/-- The names that `help` knows. -/
def topics : List String := ["show", "apply", "completions", "man", "help"]

def ofArgs : List String → Invocation
  | [] => .rejected
  | "show" :: rest => displayArgs none none rest
  | "apply" :: rest => applyArgs none [] false rest
  | "completions" :: rest => completionsArgs none rest
  | "man" :: rest => manArgs rest
  | ["help"] => .help
  | ["help", topic] => if topics.contains topic then .help else .rejected
  | arg :: _ => if asksHelp (form arg) then .help else .rejected

end Invocation

end FacetFilter
