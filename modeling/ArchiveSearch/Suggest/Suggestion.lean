import ArchiveSearch.Json.Basic
import ArchiveSearch.Suggest.Score
import ArchiveSearch.Suggest.Vocabulary
import ArchiveSearch.Text.Blank

namespace ArchiveSearch

set_option autoImplicit false

inductive SuggestionKind where
  | recent
  | popular
  | smart
  | category
  deriving DecidableEq

namespace SuggestionKind

def name : SuggestionKind → String
  | .recent => "recent"
  | .popular => "popular"
  | .smart => "smart"
  | .category => "category"

def order : SuggestionKind → Nat
  | .recent => 0
  | .popular => 1
  | .smart => 2
  | .category => 3

end SuggestionKind

structure Suggestion (R : Type) where
  kind : SuggestionKind
  text : String
  relevance : R
  category : Option ContentType := none
  resultCount : Option Nat := none

namespace Suggestion

variable {R : Type}

def lowered (s : Suggestion R) : String :=
  Text.lower s.text

def id (s : Suggestion R) : String :=
  s.kind.name ++ ":" ++ s.lowered

def encode (s : Suggestion Binary64) : Json :=
  .object
    ([("id", .string s.id), ("kind", .string s.kind.name), ("text", .string s.text)] ++
      (s.category.map fun c => ("category", Json.string c.name)).toList ++
      (s.resultCount.map fun n => ("resultCount", Json.integer n)).toList ++
      [("relevance", .ofBinary64 s.relevance)])

def mayPrecede (a : Arithmetic R) (s t : Suggestion R) : Bool :=
  a.le t.relevance s.relevance &&
    (!a.le s.relevance t.relevance || s.kind.order ≤ t.kind.order)

def distinct : List String → List (Suggestion R) → List (Suggestion R)
  | _, [] => []
  | seen, s :: rest =>
      if seen.contains s.lowered then distinct seen rest
      else s :: distinct (s.lowered :: seen) rest

def best (a : Arithmetic R) (most : Nat) (candidates : List (Suggestion R)) :
    List (Suggestion R) :=
  (distinct [] (candidates.mergeSort (mayPrecede a))).take most

end Suggestion

namespace Suggest

variable {R : Type} (a : Arithmetic R)

def normalForm (text : String) : String :=
  Text.lower (Text.trim text)

def ranked {α : Type} (base : Rat) (make : α → R → Suggestion R) (found : List α) :
    List (Suggestion R) :=
  found.zipIdx.map fun x => make x.1 (Score.decayed a base x.2)

def fromVocabulary (contentType : ContentType) (needle : String) : List (Suggestion R) :=
  ranked a Score.vocabularyBase
    (fun term relevance =>
      { kind := .category, text := term, relevance, category := some contentType })
    (contentType.vocabulary.filter fun term => Text.contains term needle)

open Text (Cursor) in
def yearAt (at_ : Cursor) : Option Cursor := do
  let digit := Cursor.one Text.isDigit
  Cursor.boundary at_ >>= digit >>= digit >>= digit >>= digit >>= Cursor.boundary

def hasYear (input : String) : Bool :=
  (Text.Cursor.find? yearAt input).isSome

def startsCapitalized (input : String) : Bool :=
  match input.toList with
  | c :: d :: _ => 'A' ≤ c && c ≤ 'Z' && 'a' ≤ d && d ≤ 'z'
  | _ => false

def legalWords : List (String × Bool) :=
  [("law", false), ("legal", false), ("court", false), ("case", false), ("constitution", true),
    ("contract", true), ("tort", true), ("statute", true), ("justice", false), ("rights", false),
    ("litigation", false), ("appeal", true)]

open Text (Cursor) in
def legalWordAt (at_ : Cursor) : Option Cursor := do
  let start ← Cursor.boundary at_
  legalWords.findSome? fun (name, goesOn) => do
    let last ← Cursor.word name.toList start
    if goesOn then some last else Cursor.boundary last

def hasLegalWord (input : String) : Bool :=
  (Text.Cursor.find? legalWordAt input).isSome

def templates (input : String) : List String :=
  (if hasYear input then [input ++ " graduates"] else []) ++
    (if startsCapitalized input then [input ++ " (name search)"] else []) ++
    (if hasLegalWord input then [input ++ " publications"] else [])

def fromTemplates (input : String) : List (Suggestion R) :=
  (templates input).map fun text =>
    { kind := .smart, text, relevance := a.number Score.templateBase }

end Suggest

end ArchiveSearch
