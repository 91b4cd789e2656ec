import WorkspaceSearch.Query.Operators
import WorkspaceSearch.Time.Reading

/-!
# Rules of the query language

Ten rules take the operators out of a query.  A rule says what it recognises at a place of the text, what takes its
place, and what has been found (`Finding`).  A rule is applied from left to right: where it recognises something the
scan goes on behind it, elsewhere it moves on by one character (`Rule.apply`).

Most operators stand at the start of a token: at the start of the text, or after a blank, which is then part of what
is recognised.  Keywords are recognised in either case.
-/

namespace WorkspaceSearch.Query

/-- Something an operator says. -/
inductive Finding where
  /-- A quoted phrase that is not blank. -/
  | phrase
  | sender (name : String)
  | channel (name : String)
  | has (tag : HasTag)
  /-- A bound on the date; none when the date cannot be read. -/
  | before (bound : Option Instant)
  | after (bound : Option Instant)
  | exclude (term : String)
  /-- Any one word is enough. -/
  | matchAny
  deriving DecidableEq, Repr

/-- Adds a finding to the operators. -/
def Finding.addTo (ops : Operators) : Finding → Operators
  | .phrase => { ops with exact := true }
  | .sender name => { ops with senders := ops.senders ++ [name] }
  | .channel name => { ops with channels := ops.channels ++ [name] }
  | .has tag => { ops with has := ops.has ++ [tag] }
  | .before bound => { ops with before := bound }
  | .after bound => { ops with after := bound }
  | .exclude term => { ops with exclude := ops.exclude ++ [term] }
  | .matchAny => { ops with matchAny := true }

/-- What a rule does at a place it recognises. -/
structure Hit where
  /-- What takes the place of the text recognised; nothing when that text stays. -/
  replacement : Option (List Char)
  finding : Option Finding
  /-- The text behind. -/
  rest : List Char
  deriving DecidableEq, Repr

/-- A place whose text becomes a space. -/
def Hit.found (finding : Finding) (rest : List Char) : Hit := ⟨some [' '], some finding, rest⟩

/-- The rules, in the order in which they are applied. -/
inductive Rule where
  /-- A text in double quotes. -/
  | quoted
  /-- The keyword `from:` and a name. -/
  | sender
  /-- The keyword `in:` and a name. -/
  | channel
  /-- The keyword `has:` and a tag. -/
  | has
  /-- The keyword `before:` and a date. -/
  | before
  /-- The keyword `after:` and a date. -/
  | after
  /-- The word NOT and the word after it. -/
  | negated
  /-- A dash and the word after it. -/
  | dashed
  /-- The word AND or OR in capitals, with the blank behind it. -/
  | connector
  /-- A run of asterisks. -/
  | wildcard
  deriving DecidableEq, Repr

namespace Rule

/-- All rules, in the order in which they are applied. -/
def all : List Rule :=
  [.quoted, .sender, .channel, .has, .before, .after, .negated, .dashed, .connector, .wildcard]

/-- A rule for a date is applied once only. -/
def once : Rule → Bool
  | .before | .after => true
  | _ => false

/-- Whether a character is a letter of a keyword, in either case.  The long s is a form of s. -/
def isKeywordLetter (letter c : Char) : Bool := Chars.asciiLower c == letter || (letter == 's' && c == 'ſ')

/-- The text behind a keyword at the front. -/
def afterKeyword : List Char → List Char → Option (List Char)
  | [], cs => some cs
  | _ :: _, [] => none
  | k :: ks, c :: cs => if isKeywordLetter k c then afterKeyword ks cs else none

/-- The word at the front and the text behind it; none when the text is empty or starts with a blank. -/
def wordAtFront (cs : List Char) : Option (List Char × List Char) :=
  match Chars.splitWord cs with
  | ([], _) => none
  | (c :: w, rest) => some (c :: w, rest)

/-- What a rule for tokens recognises at the start of a token. -/
def hitToken (rule : Rule) (cs : List Char) : Option Hit :=
  match rule with
  | .sender => named ['f', 'r', 'o', 'm', ':'] '@' .sender
  | .channel => named ['i', 'n', ':'] '#' .channel
  | .has => valued ['h', 'a', 's', ':'] fun v => .has (HasTag.ofName v)
  | .before => valued ['b', 'e', 'f', 'o', 'r', 'e', ':'] fun v => .before (Instant.ofQuery? v)
  | .after => valued ['a', 'f', 't', 'e', 'r', ':'] fun v => .after (Instant.ofQuery? v)
  | .negated =>
    match afterKeyword ['n', 'o', 't'] cs with
    | some (c :: rest) =>
      if Chars.isBlank c then
        (wordAtFront (Chars.trimStart rest)).map fun (w, rest) => .found (.exclude (.ofList w)) rest
      else none
    | _ => none
  | .dashed =>
    match cs with
    | '-' :: rest => (wordAtFront rest).map fun (w, rest) => .found (.exclude (.ofList w)) rest
    | _ => none
  | .connector =>
    match cs with
    | 'A' :: 'N' :: 'D' :: rest => (afterEnd rest).map fun rest => ⟨some [' '], none, rest⟩
    | 'O' :: 'R' :: rest => (afterEnd rest).map fun rest => .found .matchAny rest
    | _ => none
  | .quoted | .wildcard => none
where
  /-- A keyword and a value. -/
  valued (keyword : List Char) (finding : String → Finding) : Option Hit := do
    let rest ← afterKeyword keyword cs
    let (w, rest) ← wordAtFront rest
    some (.found (finding (.ofList w)) rest)
  /-- A keyword and a name behind any number of sigils; a token without a name stays. -/
  named (keyword : List Char) (sigil : Char) (finding : String → Finding) : Option Hit := do
    let rest ← afterKeyword keyword cs
    let (w, rest) ← wordAtFront rest
    match w.dropWhile (· == sigil) with
    | [] => some ⟨none, none, rest⟩
    | name => some (.found (finding (.ofList name)) rest)
  /-- The text behind the blank that ends a word, or behind the end of the text. -/
  afterEnd : List Char → Option (List Char)
    | [] => some []
    | c :: rest => if Chars.isBlank c then some rest else none

section

variable (cs : List Char)

theorem hitToken_sender : hitToken .sender cs = hitToken.named cs ['f', 'r', 'o', 'm', ':'] '@' .sender := rfl

theorem hitToken_channel : hitToken .channel cs = hitToken.named cs ['i', 'n', ':'] '#' .channel := rfl

theorem hitToken_has :
    hitToken .has cs = hitToken.valued cs ['h', 'a', 's', ':'] fun v => .has (HasTag.ofName v) := rfl

theorem hitToken_before :
    hitToken .before cs =
      hitToken.valued cs ['b', 'e', 'f', 'o', 'r', 'e', ':'] fun v => .before (Instant.ofQuery? v) := rfl

theorem hitToken_after :
    hitToken .after cs = hitToken.valued cs ['a', 'f', 't', 'e', 'r', ':'] fun v => .after (Instant.ofQuery? v) := rfl

theorem hitToken_negated :
    hitToken .negated cs =
      match afterKeyword ['n', 'o', 't'] cs with
      | some (c :: rest) =>
        if Chars.isBlank c then
          (wordAtFront (Chars.trimStart rest)).map fun (w, rest) => .found (.exclude (.ofList w)) rest
        else none
      | _ => none := rfl

theorem hitToken_dashed :
    hitToken .dashed cs =
      match cs with
      | '-' :: rest => (wordAtFront rest).map fun (w, rest) => .found (.exclude (.ofList w)) rest
      | _ => none := rfl

theorem hitToken_connector :
    hitToken .connector cs =
      match cs with
      | 'A' :: 'N' :: 'D' :: rest => (hitToken.afterEnd rest).map fun rest => ⟨some [' '], none, rest⟩
      | 'O' :: 'R' :: rest => (hitToken.afterEnd rest).map fun rest => .found .matchAny rest
      | _ => none := rfl

theorem hitToken_dash :
    hitToken .dashed ('-' :: cs) =
      (wordAtFront cs).map fun (w, rest) => .found (.exclude (.ofList w)) rest := rfl

theorem hitToken_and :
    hitToken .connector ('A' :: 'N' :: 'D' :: cs) =
      (hitToken.afterEnd cs).map fun rest => ⟨some [' '], none, rest⟩ := rfl

theorem hitToken_or :
    hitToken .connector ('O' :: 'R' :: cs) = (hitToken.afterEnd cs).map fun rest => .found .matchAny rest := rfl

end

theorem hitToken_not {cs rest : List Char} {c : Char} (hkey : afterKeyword ['n', 'o', 't'] cs = some (c :: rest))
    (hc : Chars.isBlank c = true) :
    hitToken .negated cs =
      (wordAtFront (Chars.trimStart rest)).map fun (w, rest) => .found (.exclude (.ofList w)) rest := by
  rw [hitToken_negated, hkey]
  exact if_pos hc

theorem hitToken_negated_of_forall {cs : List Char}
    (h : ∀ c rest, afterKeyword ['n', 'o', 't'] cs = some (c :: rest) → Chars.isBlank c = false) :
    hitToken .negated cs = none := by
  rw [hitToken_negated]
  split
  · next c rest hkey => rw [h c rest hkey, if_neg Bool.false_ne_true]
  · rfl

theorem hitToken_dashed_of_forall {cs : List Char} (h : ∀ rest, cs ≠ '-' :: rest) : hitToken .dashed cs = none := by
  rw [hitToken_dashed]
  split
  · next rest => exact absurd rfl (h rest)
  · rfl

theorem hitToken_connector_of_forall {cs : List Char}
    (hand : ∀ rest, cs = 'A' :: 'N' :: 'D' :: rest → hitToken.afterEnd rest = none)
    (hor : ∀ rest, cs = 'O' :: 'R' :: rest → hitToken.afterEnd rest = none) : hitToken .connector cs = none := by
  rw [hitToken_connector]
  split
  · next rest => rw [hand rest rfl, Option.map_none]
  · next rest => rw [hor rest rfl, Option.map_none]
  · rfl

/-- What a rule for tokens recognises at a place: a token that starts here, or behind the blank that stands here. -/
def hitAtToken (rule : Rule) (atStart : Bool) (cs : List Char) : Option Hit :=
  match if atStart then hitToken rule cs else none with
  | some h => some h
  | none =>
    match cs with
    | c :: rest => if Chars.isBlank c then hitToken rule rest else none
    | [] => none

/-- What a rule recognises at a place; `atStart` says whether the place is the start of the text. -/
def hit (rule : Rule) (atStart : Bool) (cs : List Char) : Option Hit :=
  match rule with
  | .quoted =>
    match cs with
    | '"' :: rest =>
      match rest.dropWhile (· != '"') with
      | _ :: behind =>
        let phrase := Chars.trim (rest.takeWhile (· != '"'))
        some ⟨some (' ' :: phrase ++ [' ']), if phrase = [] then none else some .phrase, behind⟩
      | [] => none
    | _ => none
  | .wildcard =>
    match cs with
    | '*' :: rest => some ⟨some [], none, rest.dropWhile (· == '*')⟩
    | _ => none
  | rule => hitAtToken rule atStart cs

/-! ### a rule moves on -/

private theorem length_dropWhile_le {p : Char → Bool} (cs : List Char) : (cs.dropWhile p).length ≤ cs.length :=
  (List.dropWhile_sublist p).length_le

private theorem length_afterKeyword {ks cs rest : List Char} (h : afterKeyword ks cs = some rest) :
    rest.length + ks.length = cs.length := by
  induction ks generalizing cs with
  | nil => simp [afterKeyword] at h; simp [h]
  | cons k ks ih =>
    cases cs with
    | nil => simp [afterKeyword] at h
    | cons c cs =>
      simp only [afterKeyword] at h
      split at h
      · have := ih h
        simp only [List.length_cons]
        omega
      · simp at h

private theorem length_wordAtFront {cs w rest : List Char} (h : wordAtFront cs = some (w, rest)) :
    rest.length < cs.length := by
  have hlen := congrArg List.length (List.takeWhile_append_dropWhile (p := fun c => !Chars.isBlank c) (l := cs))
  rw [List.length_append] at hlen
  unfold wordAtFront at h
  split at h
  · simp at h
  · next c w' rest' hs =>
    obtain ⟨hw, rfl⟩ := Prod.mk.inj hs
    obtain ⟨-, rfl⟩ := Prod.mk.inj (Option.some.inj h)
    rw [hw, List.length_cons] at hlen
    omega

section

variable {cs rest : List Char} {h : Hit}

private theorem length_valued {keyword : List Char} {finding : String → Finding}
    (hh : hitToken.valued cs keyword finding = some h) : h.rest.length < cs.length := by
  simp only [hitToken.valued, Option.bind_eq_bind, Option.bind_eq_some_iff] at hh
  obtain ⟨behind, hkeyword, ⟨w, rest⟩, hword, hfound⟩ := hh
  obtain rfl := Option.some.inj hfound
  have hle := length_afterKeyword hkeyword
  exact Nat.lt_of_lt_of_le (length_wordAtFront hword) (by omega)

private theorem length_named {keyword : List Char} {sigil : Char} {finding : String → Finding}
    (hh : hitToken.named cs keyword sigil finding = some h) : h.rest.length < cs.length := by
  simp only [hitToken.named, Option.bind_eq_bind, Option.bind_eq_some_iff] at hh
  obtain ⟨behind, hkeyword, ⟨w, rest⟩, hword, hfound⟩ := hh
  -- with or without a name, the text behind the token is the same
  have hrest : h.rest = rest := by
    dsimp only at hfound
    split at hfound <;> (obtain rfl := Option.some.inj hfound; rfl)
  have hle := length_afterKeyword hkeyword
  rw [hrest]
  exact Nat.lt_of_lt_of_le (length_wordAtFront hword) (by omega)

private theorem length_excluded
    (hh : ((wordAtFront cs).map fun (w, rest) => Hit.found (.exclude (.ofList w)) rest) = some h) :
    h.rest.length < cs.length := by
  obtain ⟨⟨w, rest⟩, hword, rfl⟩ := Option.map_eq_some_iff.1 hh
  exact length_wordAtFront hword

private theorem length_afterEnd {behind : List Char} (hend : hitToken.afterEnd rest = some behind) :
    behind.length ≤ rest.length := by
  cases rest with
  | nil =>
    obtain rfl := Option.some.inj hend
    exact Nat.le_refl 0
  | cons c rest =>
    simp only [hitToken.afterEnd] at hend
    split at hend
    · obtain rfl := Option.some.inj hend
      exact Nat.le_succ _
    · cases hend

private theorem length_connected {replace : List Char → Hit} (hreplace : ∀ behind, (replace behind).rest = behind)
    (hh : (hitToken.afterEnd rest).map replace = some h) : h.rest.length ≤ rest.length := by
  obtain ⟨behind, hend, rfl⟩ := Option.map_eq_some_iff.1 hh
  rw [hreplace]
  exact length_afterEnd hend

end

private theorem length_hitToken {rule : Rule} {cs : List Char} {h : Hit} (hh : hitToken rule cs = some h) :
    h.rest.length < cs.length := by
  cases rule with
  | sender =>
    rw [hitToken_sender] at hh
    exact length_named hh
  | channel =>
    rw [hitToken_channel] at hh
    exact length_named hh
  | has =>
    rw [hitToken_has] at hh
    exact length_valued hh
  | before =>
    rw [hitToken_before] at hh
    exact length_valued hh
  | after =>
    rw [hitToken_after] at hh
    exact length_valued hh
  | negated =>
    rw [hitToken_negated] at hh
    split at hh
    · next c rest hkeyword =>
      split at hh
      · have hle : (Chars.trimStart rest).length ≤ rest.length := length_dropWhile_le rest
        have hlength := length_afterKeyword hkeyword
        rw [List.length_cons] at hlength
        exact Nat.lt_of_lt_of_le (length_excluded hh) (by omega)
      · cases hh
    · cases hh
  | dashed =>
    rw [hitToken_dashed] at hh
    split at hh
    · exact Nat.lt_succ_of_lt (length_excluded hh)
    · cases hh
  | connector =>
    rw [hitToken_connector] at hh
    split at hh
    · exact Nat.lt_of_le_of_lt (length_connected (fun _ => rfl) hh) (by simp only [List.length_cons]; omega)
    · exact Nat.lt_of_le_of_lt (length_connected (fun _ => rfl) hh) (by simp only [List.length_cons]; omega)
    · cases hh
  | quoted | wildcard => exact absurd hh nofun

private theorem length_hitAtToken {rule : Rule} {atStart : Bool} {cs : List Char} {h : Hit}
    (hh : hitAtToken rule atStart cs = some h) : h.rest.length < cs.length := by
  unfold hitAtToken at hh
  split at hh
  · next h' hs =>
    obtain rfl := Option.some.inj hh
    split at hs
    · exact length_hitToken hs
    · simp at hs
  · split at hh
    · split at hh
      · have := length_hitToken hh
        simp only [List.length_cons]
        omega
      · simp at hh
    · simp at hh

/-- A rule that recognises something moves on. -/
theorem length_rest_of_hit {rule : Rule} {atStart : Bool} {cs : List Char} {h : Hit}
    (hh : rule.hit atStart cs = some h) : h.rest.length < cs.length := by
  cases rule with
  | quoted =>
    simp only [hit] at hh
    split at hh
    · next rest =>
      split at hh
      · next q behind hs =>
        have hle := length_dropWhile_le (p := (· != '"')) rest
        rw [hs] at hle
        obtain rfl := Option.some.inj hh
        simp only [List.length_cons] at *
        omega
      · simp at hh
    · simp at hh
  | wildcard =>
    simp only [hit] at hh
    split at hh
    · next rest =>
      obtain rfl := Option.some.inj hh
      have hle := length_dropWhile_le (p := (· == '*')) rest
      simp only [List.length_cons]
      omega
    · simp at hh
  | sender | channel | has | before | after | negated | dashed | connector => exact length_hitAtToken hh

/-! ### applying a rule -/

/-- Applies a rule to a text from left to right: the text it leaves, and what it finds. -/
def scan (rule : Rule) (atStart : Bool) (cs : List Char) : List Char × List Finding :=
  match cs with
  | [] => ([], [])
  | c :: tail =>
    match _h : rule.hit atStart (c :: tail) with
    | none =>
      let (text, findings) := scan rule false tail
      (c :: text, findings)
    | some hit =>
      let (text, findings) := if rule.once then (hit.rest, []) else scan rule false hit.rest
      let recognised := (c :: tail).take ((c :: tail).length - hit.rest.length)
      (hit.replacement.getD recognised ++ text, hit.finding.toList ++ findings)
termination_by cs.length
decreasing_by
  · simp
  · exact length_rest_of_hit _h

/-- Applies a rule to a whole text. -/
def apply (rule : Rule) (cs : List Char) : List Char × List Finding := scan rule true cs

end Rule

end WorkspaceSearch.Query
