import Bindery.Function.Lists
import Bindery.NameSet
import Bindery.Text.LetterCase

/-! # Types

A type is described by the templates that say how its values are declared, converted and passed on in a
target language. A template belongs to a facet; it may be one for all directions or a mapping from
directions to templates. An empty template opts out of the facet. -/

namespace Bindery
open Attr (Value Tree)

/-- What a template of a type is for. -/
inductive Facet where
  /-- To declare a variable of the target. -/
  | decl
  /-- To declare a variable of C. -/
  | cDecl
  /-- To convert an input. -/
  | inConv
  /-- To convert an output. -/
  | outConv
  /-- To pass an argument to the call. -/
  | call
  /-- To take a parameter in a signature. -/
  | header
deriving Repr, DecidableEq, Inhabited

namespace Facet

/-- All facets. -/
def all : List Facet := [decl, cDecl, inConv, outConv, call, header]

/-- The key of the attribute that holds the templates. -/
def key : Facet → String
  | decl => "DECL"
  | cDecl => "CDECL"
  | inConv => "INCONV"
  | outConv => "OUTCONV"
  | call => "CALL"
  | header => "HEADER"

/-- Whether a template for all directions is used in one: a conversion only in its own. -/
def appliesTo (facet : Facet) (mode : Mode) : Bool :=
  match facet with
  | inConv => mode.reads
  | outConv => mode.writes
  | decl | cDecl | call | header => true

end Facet

/-- What is known of a type. -/
structure TypeInfo where
  name : String
  attrs : Tree
  /-- Its flags, in lower case. -/
  flags : NameSet
deriving DecidableEq, Inhabited

namespace TypeInfo

/-- A type of which nothing is known yet. -/
def new (name : String) : TypeInfo := ⟨name, [], .empty⟩

/-- The value of an attribute. -/
def attr? (t : TypeInfo) (key : String) : Option Value := Entries.get? t.attrs key

/-- The value of an attribute that is a text. -/
def text? (t : TypeInfo) (key : String) : Option String := (t.attr? key).bind Value.text?

/-- Whether it has a flag, in any case. -/
def hasFlag (t : TypeInfo) (flag : String) : Bool := Text.lower flag ∈ t.flags

/-- Whether its values are passed by pointer. -/
def isByRef (t : TypeInfo) : Bool := t.hasFlag "by_ref"

/-- Whether it is an enumeration. -/
def isEnum (t : TypeInfo) : Bool := t.hasFlag "enum"

/-- Whether it is a bit field. -/
def isBitfield (t : TypeInfo) : Bool := t.hasFlag "bitfield"

/-- Updates the description from another source: flags are added, all else is merged. -/
def update (t : TypeInfo) (attrs : Tree) : Except Error TypeInfo :=
  let added : Except Error (List String) := match Entries.get? attrs "FLAGS" with
    | some v => Function.listItems t.name "FLAGS" v
    | none => .ok []
  added.map fun items =>
    { t with
      flags := t.flags.insertAll (items.map Text.lower)
      attrs := Attr.merge t.attrs (Entries.drop attrs "FLAGS") }

/-- The template of a facet for a direction; an empty one opts out. -/
def template? (t : TypeInfo) (facet : Facet) (mode : Mode) : Option String :=
  match t.attr? facet.key with
  | none => none
  | some (.text s) => if facet.appliesTo mode then some s else none
  | some (.map []) => some ""
  | some (.map entries) => (Entries.get? entries mode.keyword).bind Value.template?
  | some (.list _) => none

/-- The C type for a direction. -/
def cType? (t : TypeInfo) (mode : Mode) : Option String :=
  match t.attr? "CTYPE" with
  | none => none
  | some (.text s) => some s
  | some (.map entries) => (Entries.get? entries mode.keyword).bind Value.template?
  | some (.list _) => none

/-- The place of the C type in a declaration. -/
def typeToken : String := "%T%"

/-- The place of the variable's name in a declaration. -/
def nameToken : String := "%C%"

/-- The declaration of a C variable; empty if it needs a C type and there is none. -/
def declareC (t : TypeInfo) (name : String) (mode : Mode) : String :=
  let decl := (t.template? .cDecl mode).getD (typeToken ++ " " ++ nameToken ++ ";")
  match t.cType? mode with
  | none => if Text.contains typeToken decl then "" else Text.replace nameToken name (Text.replace typeToken "" decl)
  | some c => Text.replace nameToken name (Text.replace typeToken c decl)

/-- What a default value is called in the target. -/
def translateDefault (t : TypeInfo) (value : String) : String :=
  match t.attr? "DEFAULT" with
  | some (.map aliases) => ((Entries.get? aliases value).bind Value.text?).getD value
  | _ => value

end TypeInfo
end Bindery
