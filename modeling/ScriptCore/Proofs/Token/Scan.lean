import ScriptCore.Proofs.Text.Bytes
import ScriptCore.Proofs.Token.Lexeme

/-!
# The tokens of a text

`scan` reads a text without collecting what came before, and `Scanned` says without reading which
tokens a text is made of: well-formed lexemes in their places, none of them joined by the character
after it, with nothing but skippable characters between them.

* `scan_eq_ok_iff`: `scan` finds exactly the tokens that `Scanned` allows;
* `run_eq_scan`, `tokenize_eq_scan`: reading a source gives these tokens and the one for its end.
-/

namespace ScriptCore

namespace Lexer

open Text (byteLength byteLength_cons byteLength_append)

/-! ## Tokens in their places -/

/-- The four lemmas on `tokenAt` are for `simp`: they read the parts of a token in its place. -/
@[simp] theorem kind_tokenAt (offset : Nat) (l : Lexeme) : (tokenAt offset l).kind = l.kind := rfl

@[simp] theorem value_tokenAt (offset : Nat) (l : Lexeme) :
    (tokenAt offset l).value = String.ofList l.value := rfl

@[simp] theorem start_tokenAt (offset : Nat) (l : Lexeme) :
    (tokenAt offset l).span.start = offset := rfl

@[simp] theorem stop_tokenAt (offset : Nat) (l : Lexeme) :
    (tokenAt offset l).span.stop = offset + byteLength l.text := rfl

/-! ## Reading without collecting -/

/-- `Except.map` succeeds where the result it maps does. -/
theorem map_eq_ok_iff {ε α β : Type} {x : Except ε α} {f : α → β} {b : β} :
    x.map f = .ok b ↔ ∃ a, x = .ok a ∧ f a = b := by
  cases x <;> simp [Except.map]

/-- `Except.map` keeps errors. -/
theorem map_eq_error_iff {ε α β : Type} {x : Except ε α} {f : α → β} {e : ε} :
    x.map f = .error e ↔ x = .error e := by
  cases x <;> simp [Except.map]

/-- The tokens of a text that begins at an offset, without one for its end. -/
def scan (offset : Nat) : List Char → Except LexError (List Token)
  | [] => .ok []
  | c :: cs =>
    if isSkippable c then scan (offset + c.utf8Size) cs
    else
      match h : nextLexeme c cs with
      | .error fault => .error ⟨fault, faultSpan offset (c :: cs) fault⟩
      | .ok (l, rest) =>
        have : rest.length < (c :: cs).length := nextLexeme_shorter h
        (scan (offset + byteLength l.text) rest).map (tokenAt offset l :: ·)
termination_by cs => cs.length
decreasing_by
  · exact Nat.lt_succ_self cs.length
  · exact this

@[simp] theorem scan_nil (offset : Nat) : scan offset [] = .ok [] := by
  rw [scan]

/-- `scan` drops a skippable character. -/
theorem scan_skip {c : Char} (h : isSkippable c) (offset : Nat) (cs : List Char) :
    scan offset (c :: cs) = scan (offset + c.utf8Size) cs := by
  rw [scan, if_pos h]

/-- `scan` goes on after the lexeme that `nextLexeme` reads. -/
theorem scan_lexeme {c : Char} {cs rest : List Char} {l : Lexeme} (hc : isSkippable c = false)
    (h : nextLexeme c cs = .ok (l, rest)) (offset : Nat) :
    scan offset (c :: cs) =
      (scan (offset + byteLength l.text) rest).map (tokenAt offset l :: ·) := by
  rw [scan, if_neg (by simp [hc])]
  split
  · next h' => exact nomatch h.symm.trans h'
  · next h' =>
    obtain ⟨rfl, rfl⟩ : l = _ ∧ rest = _ := by simpa using h.symm.trans h'
    rfl

/-- `scan` ends with the fault that `nextLexeme` finds. -/
theorem scan_fault {c : Char} {cs : List Char} {fault : LexFault} (hc : isSkippable c = false)
    (h : nextLexeme c cs = .error fault) (offset : Nat) :
    scan offset (c :: cs) = .error ⟨fault, faultSpan offset (c :: cs) fault⟩ := by
  rw [scan, if_neg (by simp [hc])]
  split
  · next h' =>
    obtain rfl : fault = _ := by simpa using h.symm.trans h'
    rfl
  · next h' => exact nomatch h.symm.trans h'

/-! ## Reading a source -/

/-- `Reading.run` adds to the tokens it has read what `scan` finds in the rest. -/
theorem run_eq_scan (r : Reading) :
    r.run = (scan r.offset r.rest).map fun body =>
      r.tokens ++ (body ++ [Token.eof (r.offset + byteLength r.rest)]).toArray := by
  fun_induction Reading.run r with
  | case1 r hr => simp [hr, Except.map]
  | case2 r c cs hr e hs =>
    -- The step failed, so the character begins no lexeme.
    unfold Reading.step at hs
    split at hs
    · exact nomatch hs
    · next hc =>
      split at hs
      · next fault hl =>
        simp only [Except.error.injEq] at hs
        subst hs
        rw [hr, scan_fault (by simpa using hc) hl, Except.map]
      · exact nomatch hs
  | case3 r c cs hr next hs hlt ih =>
    rw [ih]
    -- The step dropped a character or read a lexeme, and `next` is what `scan` goes on with.
    unfold Reading.step at hs
    split at hs
    · next hc =>
      simp only [Except.ok.injEq] at hs
      subst hs
      rw [hr, scan_skip hc, byteLength_cons]
      simp only [Nat.add_assoc]
    · next hc =>
      split at hs
      · exact nomatch hs
      · next l rest hl =>
        simp only [Except.ok.injEq] at hs
        subst hs
        rw [hr, scan_lexeme (by simpa using hc) hl, nextLexeme_text hl]
        cases scan (r.offset + byteLength l.text) rest with
        | error e => rfl
        | ok body => simp [Except.map, Nat.add_assoc]

/-- A source of admissible length has the tokens that `scan` finds, and the one for its end. -/
theorem tokenize_eq_scan {source : String} (h : source.utf8ByteSize ≤ offsetLimit) :
    tokenize source = (scan 0 source.toList).map fun body =>
      (body ++ [Token.eof source.utf8ByteSize]).toArray := by
  rw [tokenize, if_pos h, run_eq_scan]
  simp [Reading.ofSource, Text.utf8ByteSize_eq]

/-! ## The tokens, without reading -/

/-- The text is cut into the tokens: skippable characters, and well-formed lexemes in their places
that are not joined by the character after them. -/
inductive Scanned : Nat → List Char → List Token → Prop where
  | nil {offset : Nat} : Scanned offset [] []
  | skip {offset : Nat} {c : Char} {cs : List Char} {ts : List Token} :
      isSkippable c → Scanned (offset + c.utf8Size) cs ts → Scanned offset (c :: cs) ts
  | lexeme {offset : Nat} {l : Lexeme} {rest : List Char} {ts : List Token} :
      l.WellFormed → (∀ d ∈ rest.head?, ¬ l.JoinedBy d) →
      Scanned (offset + byteLength l.text) rest ts →
      Scanned offset (l.text ++ rest) (tokenAt offset l :: ts)

/-- `scan` reads one well-formed lexeme that is not joined by what follows. -/
theorem scan_wellFormed {l : Lexeme} {rest : List Char} (hl : l.WellFormed)
    (hhead : ∀ d ∈ rest.head?, ¬ l.JoinedBy d) (offset : Nat) :
    scan offset (l.text ++ rest) =
      (scan (offset + byteLength l.text) rest).map (tokenAt offset l :: ·) := by
  obtain ⟨c, cs, htext⟩ := List.exists_cons_of_ne_nil hl.text_ne_nil
  have hread : nextLexeme c (cs ++ rest) = .ok (l, rest) :=
    nextLexeme_eq_ok_iff.2 ⟨hl, by rw [htext, List.cons_append], hhead⟩
  have hscan := scan_lexeme (hl.isSkippable_head htext) hread offset
  rwa [← List.cons_append, ← htext] at hscan

/-- `scan` finds exactly the tokens that `Scanned` allows. -/
theorem scan_eq_ok_iff {offset : Nat} {cs : List Char} {ts : List Token} :
    scan offset cs = .ok ts ↔ Scanned offset cs ts := by
  constructor
  -- The recursion of `scan` gives the rules of `Scanned`, case by case.
  · intro h
    fun_induction scan offset cs generalizing ts with
    | case1 offset =>
      obtain rfl := Except.ok.inj h
      exact .nil
    | case2 offset c cs hc ih => exact .skip hc (ih h)
    | case3 offset c cs hc fault hl => exact nomatch h
    | case4 offset c cs hc l rest hl _ ih =>
      obtain ⟨body, hbody, rfl⟩ := map_eq_ok_iff.1 h
      have ⟨hform, htext, hhead⟩ := nextLexeme_eq_ok_iff.1 hl
      rw [htext]
      exact .lexeme hform hhead (ih hbody)
  -- For the converse each rule is a step of `scan`.
  · intro h
    induction h with
    | nil => exact scan_nil _
    | skip hc _ ih => rw [scan_skip hc, ih]
    | lexeme hl hhead _ ih =>
      rw [scan_wellFormed hl hhead, ih]
      rfl

/-- The tokens of a source are those that `Scanned` allows for its text, and the one for its end. -/
theorem tokenize_eq_ok_iff {source : String} (h : source.utf8ByteSize ≤ offsetLimit)
    {ts : Array Token} : tokenize source = .ok ts ↔ ∃ body, Scanned 0 source.toList body ∧
      ts = (body ++ [Token.eof source.utf8ByteSize]).toArray := by
  rw [tokenize_eq_scan h, map_eq_ok_iff]
  exact exists_congr fun body => and_congr scan_eq_ok_iff eq_comm

/-- A source that can be read has an admissible length, and its tokens are `Scanned` from its text,
but for the one for its end. -/
theorem scanned_of_tokenize {source : String} {ts : Array Token} (h : tokenize source = .ok ts) :
    source.utf8ByteSize ≤ offsetLimit ∧ ∃ body, Scanned 0 source.toList body ∧
      ts = (body ++ [Token.eof source.utf8ByteSize]).toArray := by
  have hsize : source.utf8ByteSize ≤ offsetLimit := by
    by_contra hlarge
    rw [tokenize, if_neg hlarge] at h
    cases h
  exact ⟨hsize, (tokenize_eq_ok_iff hsize).1 h⟩

/-- A source of admissible length has the fault that `scan` finds. -/
theorem tokenize_eq_error_iff {source : String} (h : source.utf8ByteSize ≤ offsetLimit)
    {e : LexError} : tokenize source = .error e ↔ scan 0 source.toList = .error e := by
  rw [tokenize_eq_scan h, map_eq_error_iff]

/-- What holds of the character after a text holds of the first one of the text that begins it. -/
theorem forall_head?_of_append {p : Char → Prop} {before after : List Char}
    (h : ∀ d ∈ (before ++ after).head?, p d) : ∀ d ∈ before.head?, p d := by
  cases before with
  | nil => exact fun d hd => nomatch hd
  | cons c before => exact h

/-! ## Facts on every token of a text -/

/-- The token of a `WellFormed` lexeme does not mark the end. -/
theorem isEof_tokenAt {l : Lexeme} (hl : l.WellFormed) (offset : Nat) :
    (tokenAt offset l).isEof = false :=
  beq_eq_false_iff_ne.2 hl.kind_ne_eof

namespace Scanned

/-- A token that is `Scanned` is a lexeme in its place, and what comes after it does not join it. -/
theorem exists_lexeme {offset : Nat} {cs : List Char} {ts : List Token}
    (h : Scanned offset cs ts) {t : Token} (ht : t ∈ ts) :
    ∃ before l rest, cs = before ++ (l.text ++ rest) ∧ t = tokenAt (offset + byteLength before) l ∧
      l.WellFormed ∧ ∀ d ∈ rest.head?, ¬ l.JoinedBy d := by
  induction h with
  | nil => exact nomatch ht
  -- The character that was dropped belongs to what stands before.
  | @skip offset c cs ts hc _ ih =>
    obtain ⟨before, l, rest, rfl, rfl, hl, hhead⟩ := ih ht
    exact ⟨c :: before, l, rest, rfl, by rw [byteLength_cons, Nat.add_assoc], hl, hhead⟩
  | @lexeme offset l rest ts hl hhead _ ih =>
    rcases List.mem_cons.1 ht with rfl | ht
    -- The token is the first one, or it is found in the rest, behind the text of the first one.
    · exact ⟨[], l, rest, rfl, rfl, hl, hhead⟩
    · obtain ⟨before, l', rest', rfl, rfl, hl', hhead'⟩ := ih ht
      exact ⟨l.text ++ before, l', rest', by rw [List.append_assoc],
        by rw [byteLength_append, Nat.add_assoc], hl', hhead'⟩

/-- None of the tokens that are `Scanned` marks the end. -/
theorem isEof_eq_false {offset : Nat} {cs : List Char} {ts : List Token}
    (h : Scanned offset cs ts) {t : Token} (ht : t ∈ ts) : t.isEof = false := by
  obtain ⟨before, l, rest, _, rfl, hl, _⟩ := h.exists_lexeme ht
  exact isEof_tokenAt hl _

/-- An empty text has no tokens. -/
theorem eq_nil {offset : Nat} {ts : List Token} (h : Scanned offset [] ts) : ts = [] := by
  have hscan := scan_eq_ok_iff.2 h
  rw [scan_nil] at hscan
  exact (Except.ok.inj hscan).symm

/-- Without the token for the end, the tokens of a source are those that are `Scanned` from its
text. -/
theorem filter_isEof {offset stop : Nat} {cs : List Char} {ts : List Token}
    (h : Scanned offset cs ts) :
    (ts ++ [Token.eof stop]).toArray.toList.filter (!·.isEof) = ts := by
  have hkeep : ts.filter (!·.isEof) = ts := by
    rw [List.filter_eq_self]
    intro t ht
    simp [h.isEof_eq_false ht]
  rw [List.toList_toArray, List.filter_append, hkeep]
  exact List.append_nil ts

/-- The same of arrays: `filter_isEof` in the form in which `tokenize` answers. -/
theorem filter_isEof_toArray {offset stop : Nat} {cs : List Char} {ts : List Token}
    (h : Scanned offset cs ts) :
    (ts ++ [Token.eof stop]).toArray.filter (!·.isEof) = ts.toArray := by
  rw [← Array.toList_inj, Array.toList_filter, h.filter_isEof]

end Scanned

end Lexer

end ScriptCore
