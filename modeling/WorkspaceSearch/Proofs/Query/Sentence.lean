import WorkspaceSearch.Proofs.Query.Scan
import WorkspaceSearch.Query.Parse

/-!
# Sentences of the query language

The grammar that the ten rules stand for.  A sentence is a sequence of items with blanks between them: plain words,
operators with their values, excluded words, connectors and quoted phrases (`Item`).  What a sentence says is read off
its items one by one (`Sentence.words`, `Sentence.operators`), whatever stands around them.

The pieces carry the conditions on their spelling, so that every sentence that can be built is one of the language.
-/

namespace WorkspaceSearch.Query

open Chars (Blank Solid IsBreak isBlank)

/-! ### Keywords -/

/-- A text spells the keyword of a rule, letter by letter and in either case. -/
def Spells (ρ : Rule) (cs : List Char) : Prop :=
  List.Forall₂ (fun k c => Rule.isKeywordLetter k c = true) ρ.keyword cs

/-- A text starts with the keyword of a rule. -/
def StartsWith (ρ : Rule) (cs : List Char) : Prop := ∃ ds rest, cs = ds ++ rest ∧ Spells ρ ds

theorem afterKeyword_eq_none_iff {ρ : Rule} {cs : List Char} :
    Rule.afterKeyword ρ.keyword cs = none ↔ ¬StartsWith ρ cs := by
  constructor
  · rintro h ⟨ds, rest, rfl, hds⟩
    rw [Rule.afterKeyword_append_of_forall₂ hds] at h
    cases h
  · intro h
    cases hk : Rule.afterKeyword ρ.keyword cs with
    | none => rfl
    | some rest =>
      obtain ⟨ds, hcs, hds⟩ := Rule.afterKeyword_eq_some hk
      exact absurd ⟨ds, rest, hcs, hds⟩ h

theorem afterKeyword_eq_some_nil_iff {ρ : Rule} {cs : List Char} :
    Rule.afterKeyword ρ.keyword cs = some [] ↔ Spells ρ cs := by
  constructor
  · intro h
    obtain ⟨ds, rfl, hds⟩ := Rule.afterKeyword_eq_some h
    rwa [List.append_nil]
  · intro h
    have := Rule.afterKeyword_append_of_forall₂ h []
    rwa [List.append_nil] at this

instance (ρ : Rule) (cs : List Char) : Decidable (Spells ρ cs) := decidable_of_iff _ afterKeyword_eq_some_nil_iff

instance (ρ : Rule) (cs : List Char) : Decidable (StartsWith ρ cs) :=
  decidable_of_iff (¬Rule.afterKeyword ρ.keyword cs = none) (by rw [afterKeyword_eq_none_iff, not_not])

/-! ### The pieces of an item -/

/-- A run of blanks, perhaps an empty one. -/
structure Blanks where
  chars : List Char
  blank : Blank chars := by decide

/-- A run of blanks between two words. -/
structure Gap extends Blanks where
  ne_nil : chars ≠ [] := by decide

/-- A keyword as it is spelled. -/
structure Keyword (ρ : Rule) where
  chars : List Char
  spells : Spells ρ chars := by decide

/-- What stands behind a keyword or a dash: a word without quotes. -/
structure Value where
  chars : List Char
  ne_nil : chars ≠ [] := by decide
  solid : Solid chars := by decide
  noQuote : '"' ∉ chars := by decide

/-- The name of a sender or a channel, its sigils left aside. -/
structure Name (sigil : Char) extends Value where
  noSigil : chars.head? ≠ some sigil := by decide

/-- A word that means nothing but itself. -/
structure PlainWord extends Value where
  noAsterisk : '*' ∉ chars := by decide
  noDash : chars.head? ≠ some '-' := by decide
  notAnd : chars ≠ ['A', 'N', 'D'] := by decide
  notOr : chars ≠ ['O', 'R'] := by decide
  notNot : ¬Spells .negated chars := by decide
  noKeyword : ∀ ρ ∈ Rule.prefixed, ¬StartsWith ρ chars := by decide

/-! ### Items -/

/-- An item of a sentence. -/
inductive Item where
  | word (w : PlainWord)
  | sender (keyword : Keyword .sender) (sigils : Nat) (name : Name '@')
  | channel (keyword : Keyword .channel) (sigils : Nat) (name : Name '#')
  | has (keyword : Keyword .has) (tag : Value)
  | before (keyword : Keyword .before) (date : Value)
  | after (keyword : Keyword .after) (date : Value)
  | negated (keyword : Keyword .negated) (gap : Gap) (term : PlainWord)
  | dashed (term : Value)
  /-- OR when any word is enough, and otherwise AND. -/
  | connector (any : Bool)
  /-- Plain words between double quotes. -/
  | quoted (lead : Blanks) (first : PlainWord) (more : List (Gap × PlainWord)) (trail : Blanks)

namespace Item

/-- The words of a phrase with the blanks between them. -/
def phrase (first : PlainWord) (more : List (Gap × PlainWord)) : List Char :=
  first.chars ++ more.flatMap fun p => p.1.chars ++ p.2.chars

/-- An item as it is written. -/
def text : Item → List Char
  | .word w => w.chars
  | .sender keyword sigils name => keyword.chars ++ List.replicate sigils '@' ++ name.chars
  | .channel keyword sigils name => keyword.chars ++ List.replicate sigils '#' ++ name.chars
  | .has keyword value | .before keyword value | .after keyword value => keyword.chars ++ value.chars
  | .negated keyword gap term => keyword.chars ++ gap.chars ++ term.chars
  | .dashed term => '-' :: term.chars
  | .connector any => if any then ['O', 'R'] else ['A', 'N', 'D']
  | .quoted lead first more trail => '"' :: lead.chars ++ phrase first more ++ trail.chars ++ ['"']

/-- The words that an item adds to the free text. -/
def words : Item → List (List Char)
  | .word w => [w.chars]
  | .quoted _ first more _ => first.chars :: more.map fun p => p.2.chars
  | _ => []

/-- The sender that an item names. -/
def sender? : Item → Option String
  | .sender _ _ name => some (.ofList name.chars)
  | _ => none

/-- The channel that an item names. -/
def channel? : Item → Option String
  | .channel _ _ name => some (.ofList name.chars)
  | _ => none

/-- The tag that an item asks for. -/
def tag? : Item → Option HasTag
  | .has _ tag => some (.ofName (.ofList tag.chars))
  | _ => none

/-- The last date that an item allows, as it is written. -/
def before? : Item → Option String
  | .before _ date => some (.ofList date.chars)
  | _ => none

/-- The first date that an item allows, as it is written. -/
def after? : Item → Option String
  | .after _ date => some (.ofList date.chars)
  | _ => none

/-- The term that an item excludes by NOT. -/
def negated? : Item → Option String
  | .negated _ _ term => some (.ofList term.chars)
  | _ => none

/-- The term that an item excludes by a dash. -/
def dashed? : Item → Option String
  | .dashed term => some (.ofList term.chars)
  | _ => none

/-- Whether an item is a connector. -/
def isConnector : Item → Bool
  | .connector _ => true
  | _ => false

/-- Whether an item says that any word is enough. -/
def isOr : Item → Bool
  | .connector any => any
  | _ => false

/-- Whether an item is a quoted phrase. -/
def isQuoted : Item → Bool
  | .quoted .. => true
  | _ => false

end Item

/-! ### Sentences -/

/-- Every item but the first has blanks in front of it. -/
def Spaced (ps : List (Blanks × Item)) : Prop := ∀ p ∈ ps.tail, p.1.chars ≠ []

/-- No two connectors are neighbours. -/
def Calm (ps : List (Blanks × Item)) : Prop :=
  ps.IsChain fun p q => ¬(p.2.isConnector = true ∧ q.2.isConnector = true)

/-- A sequence of items, each with the blanks in front of it.  No two connectors are neighbours, and there is at most
one bound on the date of either kind. -/
structure Sentence where
  spaced : List (Blanks × Item)
  trail : Blanks
  gaps : Spaced spaced
  calm : Calm spaced
  oneBefore : (spaced.filterMap fun p => p.2.before?).length ≤ 1
  oneAfter : (spaced.filterMap fun p => p.2.after?).length ≤ 1

namespace Sentence

/-- The items of a sentence. -/
def items (s : Sentence) : List Item := s.spaced.map Prod.snd

/-- A sentence as it is written. -/
def text (s : Sentence) : String := .ofList ((s.spaced.flatMap fun p => p.1.chars ++ p.2.text) ++ s.trail.chars)

/-- The free text of a sentence: its plain and quoted words in order, with single spaces between them. -/
def base (s : Sentence) : String := .ofList (Chars.unwords (s.items.flatMap Item.words))

/-- What the operators of a sentence say. -/
def operators (s : Sentence) : Operators where
  senders := s.items.filterMap Item.sender?
  channels := s.items.filterMap Item.channel?
  has := s.items.filterMap Item.tag?
  before := (s.items.findSome? Item.before?).bind Instant.ofQuery?
  after := (s.items.findSome? Item.after?).bind Instant.ofQuery?
  exact := s.items.any Item.isQuoted
  exclude := s.items.filterMap Item.negated? ++ s.items.filterMap Item.dashed?
  matchAny := s.items.any Item.isOr

end Sentence

end WorkspaceSearch.Query
