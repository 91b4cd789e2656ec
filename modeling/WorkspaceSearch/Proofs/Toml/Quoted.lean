import WorkspaceSearch.Proofs.Text.Digits
import WorkspaceSearch.Toml.Quoted

/-!
# Quoted texts are read back

A text in quotes is read back as itself, in whichever form it is written (`readQuoted_quote`).  All forms are of one
kind: characters that stand for themselves or are escaped, and over several lines also line breaks and quotes of which
no three follow one another (`Written`).
-/

namespace WorkspaceSearch.Toml

open Numeral (hexValue? hexDigit hexValue?_hexDigit)

/-! ### Characters -/

/-- A text between quotes that stands for a character. -/
inductive Stands (quote : Char) : List Char → Char → Prop
  | plain {c : Char} (hplain : isPlain c = true) (hquote : c ≠ quote) (hslash : c = '\\' → quote ≠ '"') :
      Stands quote [c] c
  | escape {c x : Char} {e : List Char} (hquote : quote = '"') (hgap : isGap x = false) (hbreak : x ≠ '\n' ∧ x ≠ '\r')
      (hread : ∀ rest, readEscape (x :: e ++ rest) = some (c, rest)) : Stands quote ('\\' :: x :: e) c

private theorem toNat_lt_of_isControl {c : Char} (h : isControl c = true) : c.toNat < 128 := by
  simp only [isControl, isPlain, Bool.and_eq_true, Bool.not_eq_true', Bool.or_eq_false_iff, Bool.and_eq_false_iff,
    decide_eq_false_iff_not, bne_eq_false_iff_eq] at h
  obtain ⟨⟨-, hlow | rfl⟩, -⟩ := h
  · have hle : ¬32 ≤ c.toNat := hlow
    omega
  · decide

/-- A control character is read from the last two digits of its code. -/
private theorem readEscape_control {c : Char} (h : isControl c = true) (rest : List Char) :
    readEscape ('u' :: '0' :: '0' :: hexDigit true (c.toNat / 16) :: hexDigit true (c.toNat % 16) :: rest) =
      some (c, rest) := by
  have hcode := toNat_lt_of_isControl h
  have hhigh : hexValue? (hexDigit true (c.toNat / 16)) = some (c.toNat / 16) := hexValue?_hexDigit (by omega) true
  have hlow : hexValue? (hexDigit true (c.toNat % 16)) = some (c.toNat % 16) := hexValue?_hexDigit (by omega) true
  have hzero : hexValue? '0' = some 0 := by decide
  have hvalue : c.toNat / 16 * 16 + c.toNat % 16 = c.toNat := by omega
  have hvalid : c.toNat.isValidChar := .inl (by omega)
  simp only [readEscape, readCode, List.take_succ_cons, List.take_zero, List.mapM_cons, List.mapM_nil, hzero, hhigh,
    hlow, Option.pure_def, Option.bind_eq_bind, Option.bind_some, List.foldl_cons, List.foldl_nil, Nat.zero_mul,
    Nat.zero_add, List.length_cons, List.length_nil, List.drop_succ_cons, List.drop_zero]
  rw [hvalue, if_pos ⟨trivial, hvalid⟩, Char.ofNat_toNat]

private theorem isPlain_of_not_isControl {c : Char} (h : isControl c = false) (hbreak : c ≠ '\n') :
    isPlain c = true := by
  simpa [isControl, hbreak] using h

/-- A character is written so that it stands for itself, save for line breaks and some quotes of a long text. -/
private theorem stands_writeChar {isLong : Bool} {quotes : Nat} {c : Char} (hbreak : ¬(c = '\n' ∧ isLong = true))
    (hquote : ¬(c = '"' ∧ isLong = true ∧ quotes < 2)) : Stands '"' (writeChar isLong quotes c) c := by
  have escape : ∀ {x : Char}, isGap x = false → (x ≠ '\n' ∧ x ≠ '\r') →
      (∀ rest, readEscape (x :: rest) = some (c, rest)) → Stands '"' ['\\', x] c :=
    fun hgap hbreak hread => .escape rfl hgap hbreak hread
  unfold writeChar
  split
  · exact escape rfl (by decide) fun _ => rfl
  · exact escape rfl (by decide) fun _ => rfl
  · rw [if_neg fun h => hbreak ⟨rfl, h⟩]
    exact escape rfl (by decide) fun _ => rfl
  · exact escape rfl (by decide) fun _ => rfl
  · exact escape rfl (by decide) fun _ => rfl
  · exact escape rfl (by decide) fun _ => rfl
  · rw [if_neg fun h => hquote ⟨rfl, by simpa using h⟩]
    exact escape rfl (by decide) fun _ => rfl
  · next c _ _ hline _ _ hslash hdouble =>
    split
    · next hcontrol => exact .escape rfl rfl (by decide) (readEscape_control hcontrol)
    · next hcontrol =>
      exact .plain (isPlain_of_not_isControl (Bool.eq_false_iff.2 hcontrol) hline) hdouble fun h => absurd h hslash

/-! ### Texts -/

/-- A text between quotes that stands for characters, the first of them behind a number of quotes. -/
inductive Written (quote : Char) (isLong : Bool) : Nat → List Char → List Char → Prop
  | nil {k : Nat} : Written quote isLong k [] []
  | stands {k : Nat} {c : Char} {w ws cs : List Char} (h : Stands quote w c) (hrest : Written quote isLong 0 ws cs) :
      Written quote isLong k (w ++ ws) (c :: cs)
  | lineBreak {k : Nat} {ws cs : List Char} (hlong : isLong = true) (hrest : Written quote isLong 0 ws cs) :
      Written quote isLong k ('\n' :: ws) ('\n' :: cs)
  | quote {k : Nat} {ws cs : List Char} (hlong : isLong = true) (hk : k < 2)
      (hrest : Written quote isLong (k + 1) ws cs) : Written quote isLong k (quote :: ws) (quote :: cs)

/-- What is written between double quotes. -/
private theorem written_writeChars (isLong : Bool) (k : Nat) (cs : List Char) :
    Written '"' isLong k (writeChars isLong k cs) cs := by
  induction cs generalizing k with
  | nil => exact .nil
  | cons c cs ih =>
    rw [writeChars]
    by_cases hquote : c = '"' ∧ isLong = true ∧ k < 2
    · obtain ⟨rfl, rfl, hk⟩ := hquote
      rw [if_pos ⟨rfl, rfl, hk⟩]
      have hraw : writeChar true k '"' = ['"'] := by simp [writeChar, hk]
      rw [hraw]
      exact .quote rfl hk (ih (k + 1))
    · rw [if_neg hquote]
      by_cases hbreak : c = '\n' ∧ isLong = true
      · obtain ⟨rfl, rfl⟩ := hbreak
        exact .lineBreak rfl (ih 0)
      · exact .stands (stands_writeChar hbreak hquote) (ih 0)

/-! ### Reading one line -/

private theorem readLine_stands {quote c : Char} {w : List Char} (h : Stands quote w c) (fuel : Nat)
    (rest : List Char) :
    readLine quote (fuel + 1) (w ++ rest) = (readLine quote fuel rest).map fun (s, rest) => (c :: s, rest) := by
  cases h with
  | plain hplain hquote hslash =>
    rw [List.singleton_append, readLine, if_neg hquote, if_neg fun h => hslash h.1 h.2, if_pos hplain]
    cases readLine quote fuel rest <;> rfl
  | escape hquote hgap hbreak hread =>
    subst hquote
    have hslash : ('\\' : Char) ≠ '"' := by decide
    rw [List.cons_append, readLine, if_neg hslash, if_pos ⟨rfl, rfl⟩, hread rest]
    cases hline : readLine '"' fuel rest <;> simp [hline]

private theorem Stands.length_pos {quote c : Char} {w : List Char} (h : Stands quote w c) : 0 < w.length := by
  cases h <;> exact Nat.zero_lt_succ _

/-- A text on one line is read up to the quote behind it. -/
private theorem readLine_of_written {quote : Char} {k : Nat} {text cs : List Char} (h : Written quote false k text cs)
    {fuel : Nat} (hfuel : text.length < fuel) (rest : List Char) :
    readLine quote fuel (text ++ quote :: rest) = some (cs, rest) := by
  induction h generalizing fuel with
  | nil =>
    obtain ⟨fuel, rfl⟩ := Nat.exists_eq_add_of_lt hfuel
    rw [List.nil_append, readLine, if_pos rfl]
  | @stands k c w ws cs hc _ ih =>
    have hlength := hc.length_pos
    rw [List.length_append] at hfuel
    obtain ⟨fuel, rfl⟩ : ∃ n, fuel = n + 1 := ⟨fuel - 1, by omega⟩
    rw [List.append_assoc, readLine_stands hc, ih (by omega)]
    rfl
  | lineBreak hlong => cases hlong
  | quote hlong => cases hlong

/-! ### Reading several lines -/

private theorem newline?_of_isPlain {c : Char} (h : isPlain c = true) (rest : List Char) :
    newline? (c :: rest) = none := by
  unfold newline?
  split
  · next heq =>
    obtain ⟨rfl, -⟩ := List.cons.inj heq
    exact absurd h (by decide)
  · next heq =>
    obtain ⟨rfl, -⟩ := List.cons.inj heq
    exact absurd h (by decide)
  · rfl

private theorem readLines_stands {quote c : Char} {w : List Char} (h : Stands quote w c) (fuel : Nat)
    (rest : List Char) :
    readLines quote (fuel + 1) (w ++ rest) = (readLines quote fuel rest).map fun (s, rest) => (c :: s, rest) := by
  cases h with
  | plain hplain hquote hslash =>
    rw [List.singleton_append, readLines, if_neg hquote, newline?_of_isPlain hplain]
    simp only [if_neg fun h : c = '\\' ∧ quote = '"' => hslash h.1 h.2, if_pos hplain]
    cases readLines quote fuel rest <;> rfl
  | @escape _ x e hquote hgap hbreak hread =>
    subst hquote
    have hslash : ('\\' : Char) ≠ '"' := by decide
    have hfirst : newline? ('\\' :: x :: e ++ rest) = none := rfl
    have hsecond : newline? ((x :: e ++ rest).dropWhile isGap) = none := by
      rw [List.cons_append, List.dropWhile_cons_of_neg (by rw [hgap]; exact Bool.false_ne_true)]
      simp [newline?, hbreak]
    rw [List.cons_append, readLines, if_neg hslash]
    simp only [List.cons_append] at hfirst hsecond hread
    simp only [List.cons_append, hfirst, hsecond, hread, and_self, ↓reduceIte, Option.bind_eq_bind, Option.bind_some]
    cases readLines '"' fuel rest <;> rfl

private theorem readLines_lineBreak {quote : Char} (hquote : quote ≠ '\n') (fuel : Nat) (rest : List Char) :
    readLines quote (fuel + 1) ('\n' :: rest) =
      (readLines quote fuel rest).map fun (s, rest) => ('\n' :: s, rest) := by
  rw [readLines, if_neg hquote.symm]
  simp only [newline?]
  cases readLines quote fuel rest <;> rfl

/-- The number of quotes at the front. -/
private def lead (quote : Char) (cs : List Char) : Nat := (cs.takeWhile (· == quote)).length

private theorem lead_cons_self (quote : Char) (cs : List Char) : lead quote (quote :: cs) = lead quote cs + 1 := by
  simp [lead]

private theorem lead_cons_of_ne {quote c : Char} (h : c ≠ quote) (cs : List Char) : lead quote (c :: cs) = 0 := by
  simp [lead, h]

private theorem lead_replicate {quote : Char} (n : Nat) {rest : List Char} (h : rest.head? ≠ some quote) :
    lead quote (List.replicate n quote ++ rest) = n := by
  induction n with
  | zero =>
    cases rest with
    | nil => rfl
    | cons c rest => exact lead_cons_of_ne (fun hc => h (congrArg some hc)) rest
  | succ n ih => rw [List.replicate_succ, List.cons_append, lead_cons_self, ih]

private theorem lead_stands {quote c : Char} {w : List Char} (h : Stands quote w c) (rest : List Char) :
    lead quote (w ++ rest) = 0 := by
  cases h with
  | plain hplain hne hslash => exact lead_cons_of_ne hne rest
  | escape hdouble hgap hbreak hread =>
    refine lead_cons_of_ne ?_ _
    rw [hdouble]
    decide

/-- Either the rest of a text is quotes alone, or there are not many of them before something else. -/
private theorem lead_of_written {quote : Char} (hquote : quote ≠ '\n') {k : Nat} {text cs : List Char}
    (h : Written quote true k text cs) (hk : k ≤ 2) :
    (∃ n, k + n ≤ 2 ∧ text = List.replicate n quote ∧ cs = List.replicate n quote) ∨
      ∀ rest, k + lead quote (text ++ rest) ≤ 2 := by
  induction h with
  | nil => exact .inl ⟨0, hk, rfl, rfl⟩
  | stands h hrest ih => exact .inr fun rest => by rwa [List.append_assoc, lead_stands h]
  | lineBreak hlong hrest ih => exact .inr fun rest => by rwa [List.cons_append, lead_cons_of_ne hquote.symm]
  | quote hlong hlt hrest ih =>
    rcases ih hlt with ⟨n, hn, rfl, rfl⟩ | hlead
    · exact .inl ⟨n + 1, by omega, rfl, rfl⟩
    · refine .inr fun rest => ?_
      have hmore := hlead rest
      rw [List.cons_append, lead_cons_self]
      omega

/-- Three quotes end a text, and up to two in front of them belong to it. -/
private theorem readLines_end {quote : Char} {n : Nat} (hn : n ≤ 2) (fuel : Nat) {rest : List Char}
    (hrest : rest.head? ≠ some quote) :
    readLines quote (fuel + 1) (quote :: (List.replicate (n + 2) quote ++ rest)) =
      some (List.replicate n quote, rest) := by
  have hlead : ((List.replicate (n + 2) quote ++ rest).takeWhile (· == quote)).length = n + 2 :=
    lead_replicate (n + 2) hrest
  have hdrop : (List.replicate (n + 2) quote ++ rest).drop (n + 2) = rest := by
    rw [List.drop_left' List.length_replicate]
  rw [readLines, if_pos rfl]
  simp only [hlead, if_pos (Nat.le_add_left 2 n), Nat.add_sub_cancel, Nat.min_eq_left hn, hdrop]

private theorem readLines_quote {quote : Char} {rest : List Char} (h : lead quote rest < 2) (fuel : Nat) :
    readLines quote (fuel + 1) (quote :: rest) =
      (readLines quote fuel rest).map fun (s, rest) => (quote :: s, rest) := by
  rw [lead] at h
  rw [readLines, if_pos rfl]
  simp only [if_neg (Nat.not_le.2 h)]
  cases readLines quote fuel rest <;> rfl

/-- A text of several lines is read up to the three quotes behind it. -/
private theorem readLines_of_written {quote : Char} (hquote : quote ≠ '\n') {k : Nat} {text cs : List Char}
    (h : Written quote true k text cs) (hk : k ≤ 2) {fuel : Nat} (hfuel : text.length < fuel) {rest : List Char}
    (hrest : rest.head? ≠ some quote) :
    readLines quote fuel (text ++ (List.replicate 3 quote ++ rest)) = some (cs, rest) := by
  induction h generalizing fuel with
  | nil =>
    obtain ⟨fuel, rfl⟩ : ∃ n, fuel = n + 1 := ⟨fuel - 1, by rw [List.length_nil] at hfuel; omega⟩
    exact readLines_end (Nat.zero_le 2) fuel hrest
  | @stands k c w ws cs hc _ ih =>
    have hlength := hc.length_pos
    rw [List.length_append] at hfuel
    obtain ⟨fuel, rfl⟩ : ∃ n, fuel = n + 1 := ⟨fuel - 1, by omega⟩
    rw [List.append_assoc, readLines_stands hc, ih (Nat.zero_le 2) (by omega)]
    rfl
  | lineBreak _ _ ih =>
    rw [List.length_cons] at hfuel
    obtain ⟨fuel, rfl⟩ : ∃ n, fuel = n + 1 := ⟨fuel - 1, by omega⟩
    rw [List.cons_append, readLines_lineBreak hquote, ih (Nat.zero_le 2) (by omega)]
    rfl
  | @quote k ws cs _ hlt hws ih =>
    rw [List.length_cons] at hfuel
    obtain ⟨fuel, rfl⟩ : ∃ n, fuel = n + 1 := ⟨fuel - 1, by omega⟩
    rcases lead_of_written hquote hws hlt with ⟨n, hn, rfl, rfl⟩ | hlead
    · -- this quote and those behind it are the last ones of the text
      have hquotes : List.replicate n quote ++ (List.replicate 3 quote ++ rest) =
          List.replicate (n + 1 + 2) quote ++ rest := by
        rw [← List.append_assoc, List.replicate_append_replicate]
      rw [List.cons_append, hquotes]
      exact readLines_end (by omega) fuel hrest
    · have hfew := hlead (List.replicate 3 quote ++ rest)
      rw [List.cons_append, readLines_quote (by omega), ih hlt (by omega)]
      rfl

/-! ### Texts without escapes -/

private theorem written_plain {cs : List Char} (h : ∀ c ∈ cs, isPlain c = true ∧ c ≠ '\'') :
    Written '\'' false 0 cs cs := by
  induction cs with
  | nil => exact .nil
  | cons c cs ih =>
    obtain ⟨hplain, hquote⟩ := h c List.mem_cons_self
    exact .stands (.plain hplain hquote fun _ => by decide) (ih fun d hd => h d (List.mem_cons_of_mem c hd))

/-- The longest run of a character, when the longest one so far and the one that goes on are known. -/
private def runFrom (c : Char) (soFar : Nat × Nat) (cs : List Char) : Nat :=
  (cs.foldl (fun (best, now) d => if d = c then (max best (now + 1), now + 1) else (best, 0)) soFar).1

private theorem runFrom_cons_self (c : Char) (best now : Nat) (cs : List Char) :
    runFrom c (best, now) (c :: cs) = runFrom c (max best (now + 1), now + 1) cs := by
  simp only [runFrom, List.foldl_cons, ↓reduceIte]

private theorem runFrom_cons_of_ne {c d : Char} (h : d ≠ c) (best now : Nat) (cs : List Char) :
    runFrom c (best, now) (d :: cs) = runFrom c (best, 0) cs := by
  simp only [runFrom, List.foldl_cons, if_neg h]

private theorem le_runFrom (c : Char) (best now : Nat) (cs : List Char) : best ≤ runFrom c (best, now) cs := by
  induction cs generalizing best now with
  | nil => exact Nat.le_refl best
  | cons d cs ih =>
    by_cases hd : d = c
    · subst hd
      rw [runFrom_cons_self]
      exact Nat.le_trans (Nat.le_max_left best (now + 1)) (ih _ _)
    · rw [runFrom_cons_of_ne hd]
      exact ih best 0

private theorem written_of_runFrom {cs : List Char} (hcontrol : ∀ c ∈ cs, isControl c = false) {best now : Nat}
    (hrun : runFrom '\'' (best, now) cs ≤ 2) : Written '\'' true now cs cs := by
  induction cs generalizing best now with
  | nil => exact .nil
  | cons c cs ih =>
    have hrest : ∀ d ∈ cs, isControl d = false := fun d hd => hcontrol d (List.mem_cons_of_mem c hd)
    by_cases hquote : c = '\''
    · subst hquote
      rw [runFrom_cons_self] at hrun
      have hnow : now + 1 ≤ 2 := Nat.le_trans (Nat.le_max_right best (now + 1)) (Nat.le_trans (le_runFrom _ _ _ _) hrun)
      exact .quote rfl hnow (ih hrest hrun)
    · rw [runFrom_cons_of_ne hquote] at hrun
      by_cases hbreak : c = '\n'
      · subst hbreak
        exact .lineBreak rfl (ih hrest hrun)
      · have hplain := isPlain_of_not_isControl (hcontrol c List.mem_cons_self) hbreak
        exact .stands (.plain hplain hquote fun _ => by decide) (ih hrest hrun)

/-- The forms without escapes are taken only by texts that need none. -/
private theorem quotingOf_cases (cs : List Char) :
    (quotingOf cs).quote = '"' ∨ quotingOf cs = ⟨'\'', false⟩ ∧ Written '\'' false 0 cs cs ∨
      quotingOf cs = ⟨'\'', true⟩ ∧ Written '\'' true 0 cs cs := by
  have hcontrol : cs.any isControl = false → ∀ c ∈ cs, isControl c = false := fun h c hc =>
    Bool.eq_false_iff.2 (List.any_eq_false.1 h c hc)
  have hother : ∀ {d : Char}, cs.contains d = false → ∀ c ∈ cs, c ≠ d := by
    rintro d h c hc rfl
    rw [List.contains_iff_mem.2 hc] at h
    cases h
  unfold quotingOf
  dsimp only
  split
  · exact .inl rfl
  split
  · next h =>
    simp only [Bool.and_eq_true, Bool.not_eq_true'] at h
    obtain ⟨⟨hnone, hbreak⟩, hquote⟩ := h
    exact .inr (.inl ⟨rfl, written_plain fun c hc =>
      ⟨isPlain_of_not_isControl (hcontrol hnone c hc) (hother hbreak c hc), hother hquote c hc⟩⟩)
  split
  · exact .inl rfl
  split
  · next h =>
    simp only [Bool.and_eq_true, Bool.not_eq_true', decide_eq_true_eq] at h
    exact .inr (.inr ⟨rfl, written_of_runFrom (hcontrol h.1) h.2⟩)
  · exact .inl rfl

/-! ### Texts in quotes -/

/-- Where less than two quotes stand at the front, a text is on one line. -/
private theorem readQuoted_of_lead {quote : Char} {cs : List Char} (h : lead quote cs < 2) :
    readQuoted quote cs = (readLine quote (cs.length + 1) cs).map fun (s, rest) => (.ofList s, rest) := by
  unfold readQuoted
  split
  · next a b rest =>
    rw [if_neg]
    rintro ⟨rfl, rfl⟩
    rw [lead_cons_self, lead_cons_self] at h
    omega
  · rfl

/-- Nothing but the end of a text on one line is a quote. -/
private theorem lead_le_one {quote : Char} {text cs : List Char} (h : Written quote false 0 text cs)
    {rest : List Char} (hrest : rest.head? ≠ some quote) : lead quote (text ++ quote :: rest) < 2 := by
  cases h with
  | nil =>
    have hnone : lead quote rest = 0 := lead_replicate 0 hrest
    rw [List.nil_append, lead_cons_self, hnone]
    decide
  | stands h _ =>
    rw [List.append_assoc, lead_stands h]
    decide
  | lineBreak hlong => cases hlong
  | quote hlong => cases hlong

private theorem readQuoted_line {quote : Char} {text cs : List Char} (h : Written quote false 0 text cs)
    {rest : List Char}
    (hrest : rest.head? ≠ some quote) : readQuoted quote (text ++ quote :: rest) = some (.ofList cs, rest) := by
  have hfuel : text.length < (text ++ quote :: rest).length + 1 := by
    rw [List.length_append]
    omega
  rw [readQuoted_of_lead (lead_le_one h hrest), readLine_of_written h hfuel]
  rfl

private theorem newline?_written {quote : Char} (hquote : isPlain quote = true) {text cs : List Char}
    (h : Written quote true 0 text cs) (hbreak : '\n' ∉ cs) (rest : List Char) :
    newline? (text ++ (List.replicate 3 quote ++ rest)) = none := by
  cases h with
  | nil => exact newline?_of_isPlain hquote _
  | stands h _ =>
    cases h with
    | plain hplain => exact newline?_of_isPlain hplain _
    | escape => exact newline?_of_isPlain (by decide) _
  | lineBreak => exact absurd List.mem_cons_self hbreak
  | quote => exact newline?_of_isPlain hquote _

/-- A line break right behind three quotes is dropped. -/
private theorem readQuoted_lines {quote : Char} (hquote : quote = '"' ∨ quote = '\'') {text cs : List Char}
    (h : Written quote true 0 text cs) {rest : List Char} (hrest : rest.head? ≠ some quote) :
    readQuoted quote (quote :: quote :: ((if cs.contains '\n' then ['\n'] else []) ++
      (text ++ (List.replicate 3 quote ++ rest)))) = some (.ofList cs, rest) := by
  have hplain : isPlain quote = true ∧ quote ≠ '\n' := by
    obtain rfl | rfl := hquote <;> decide
  have hbody : (newline? ((if cs.contains '\n' then ['\n'] else []) ++ (text ++ (List.replicate 3 quote ++ rest)))).getD
      ((if cs.contains '\n' then ['\n'] else []) ++ (text ++ (List.replicate 3 quote ++ rest))) =
        text ++ (List.replicate 3 quote ++ rest) := by
    split
    · rfl
    · next hbreak =>
      have hnone := newline?_written hplain.1 h (fun hmem => hbreak (List.contains_iff_mem.2 hmem)) rest
      rw [List.nil_append, hnone]
      rfl
  have hfuel : text.length < (text ++ (List.replicate 3 quote ++ rest)).length + 1 := by
    rw [List.length_append]
    omega
  simp only [readQuoted, and_self, ↓reduceIte, hbody, readLines_of_written hplain.2 h (Nat.zero_le 2) hfuel hrest,
    Option.map_some]

/-- A text in quotes is read back, whatever stands behind it but a further quote. -/
theorem readQuoted_quote (cs : List Char) {rest : List Char} (hrest : rest.head? ≠ some '"' ∧ rest.head? ≠ some '\'') :
    ∃ q body, (q = '"' ∨ q = '\'') ∧ Toml.quote cs = q :: body ∧
      readQuoted q (body ++ rest) = some (.ofList cs, rest) := by
  have hlines : ∀ {q : Char} {text : List Char}, q = '"' ∨ q = '\'' → rest.head? ≠ some q →
      Written q true 0 text cs →
        readQuoted q (q :: q :: ((if cs.contains '\n' then ['\n'] else []) ++ text ++ [q, q, q]) ++ rest) =
          some (.ofList cs, rest) := by
    intro q text hq hrest h
    simpa using readQuoted_lines hq h hrest
  have hline : ∀ {q : Char} {text : List Char}, rest.head? ≠ some q → Written q false 0 text cs →
      readQuoted q (text ++ [q] ++ rest) = some (.ofList cs, rest) := by
    intro q text hrest h
    simpa using readQuoted_line h hrest
  rw [Toml.quote]
  -- between double quotes everything can be written, between single ones only what needs no escape
  obtain hdouble | ⟨hq, h⟩ | ⟨hq, h⟩ := quotingOf_cases cs
  · generalize quotingOf cs = quoting at hdouble ⊢
    obtain ⟨q, isLong⟩ := quoting
    obtain rfl : q = '"' := hdouble
    cases isLong with
    | false => exact ⟨'"', _, .inl rfl, rfl, hline hrest.1 (written_writeChars false 0 cs)⟩
    | true =>
      refine ⟨'"', _, .inl rfl, rfl, ?_⟩
      simpa using hlines (.inl rfl) hrest.1 (written_writeChars true 0 cs)
  · rw [hq]
    exact ⟨'\'', _, .inr rfl, rfl, hline hrest.2 h⟩
  · rw [hq]
    refine ⟨'\'', _, .inr rfl, rfl, ?_⟩
    simpa using hlines (.inr rfl) hrest.2 h

end WorkspaceSearch.Toml
