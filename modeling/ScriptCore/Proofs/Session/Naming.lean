import ScriptCore.Proofs.Session.Global
import ScriptCore.Proofs.Token.Identifier

/-!
# Which globals a script can name

The catalogue chooses the names of its functions without regard to the lexer, and four of them have
digits.  The lexer ends a word before a digit, so no script can refer to these four, although every
global scope binds them.  All other names of a global scope are identifiers.

* `isIdentifier_global_iff`: the four names are the only ones that are no identifiers;
* `tokenize_global_iff`: so a name of a global scope is read as an identifier, whatever stands around
  it, exactly if it is none of the four.
-/

namespace ScriptCore

/-- The functions of the catalogue with digits in their names. -/
def namesWithDigits : List String := ["expm1", "log10", "pow10", "atan2"]

/-- `namesWithDigits` are the only names of a global scope that are no identifiers. -/
theorem isIdentifier_global_iff : ∀ name ∈ literals.map Prod.fst ++ Builtin.names,
    (IsIdentifier name ↔ name ∉ namesWithDigits) := by
  decide +kernel

/-- `tokenize` reads a name that a global scope binds, with a space on both sides, as that
identifier between any two sources, exactly if it has no digits. -/
theorem tokenize_global_iff {s made : Session} {sink : SinkId} {global : ScopeId}
    (hmade : s.addGlobal sink = (.ok global, made)) {name : String}
    (hname : made.store.hasLocal global name = true) (first second : String)
    (hsize : (first ++ " " ++ name ++ " " ++ second).utf8ByteSize ≤ offsetLimit)
    {tokens others : Array Token} (hfirst : tokenize first = .ok tokens)
    (hsecond : tokenize second = .ok others) :
    tokenize (first ++ " " ++ name ++ " " ++ second) =
      .ok (identifierBetween first name tokens others) ↔ name ∉ namesWithDigits := by
  have hglobal : global = s.store.addRoot.1 := by
    rw [Session.addGlobal_eq] at hmade
    exact (Except.ok.inj (congrArg Prod.fst hmade)).symm
  have hbound : name ∈ literals.map Prod.fst ++ Builtin.names := by
    rw [← s.hasLocal_addGlobal sink, hmade, ← hglobal]
    exact hname
  exact (tokenize_between_iff first name second hsize hfirst hsecond).trans
    (isIdentifier_global_iff name hbound)

/-- A call of a function of the catalogue, as a new global scope binds it. -/
theorem tokenize_global_sqrt :
    ((Session.start 0 0).addGlobal ⟨0⟩).2.store.hasLocal ⟨0⟩ "sqrt" = true ∧
    tokenize ("1 +" ++ " " ++ "sqrt" ++ " " ++ "(2)") =
      .ok #[⟨.number, "1", ⟨0, 1⟩⟩, ⟨.binaryOperator, "+", ⟨2, 3⟩⟩, ⟨.identifier, "sqrt", ⟨4, 8⟩⟩,
        ⟨.openParen, "(", ⟨9, 10⟩⟩, ⟨.number, "2", ⟨10, 11⟩⟩, ⟨.closeParen, ")", ⟨11, 12⟩⟩,
        .eof 12] := by
  have hbound : ((Session.start 0 0).addGlobal ⟨0⟩).2.store.hasLocal ⟨0⟩ "sqrt" = true :=
    ((Session.start 0 0).hasLocal_addGlobal ⟨0⟩ "sqrt").2 (by decide +kernel)
  have hfirst : tokenize "1 +" =
      .ok #[⟨.number, "1", ⟨0, 1⟩⟩, ⟨.binaryOperator, "+", ⟨2, 3⟩⟩, .eof 3] := by cbv
  have hsecond : tokenize "(2)" =
      .ok #[⟨.openParen, "(", ⟨0, 1⟩⟩, ⟨.number, "2", ⟨1, 2⟩⟩, ⟨.closeParen, ")", ⟨2, 3⟩⟩,
        .eof 3] := by cbv
  have hread := (tokenize_global_iff (Session.addGlobal_eq (Session.start 0 0) ⟨0⟩) hbound "1 +" "(2)"
    (by decide) hfirst hsecond).2 (by decide)
  exact ⟨hbound, hread.trans (by cbv)⟩

/-- A name with digits is cut in two, though a new global scope binds it. -/
theorem tokenize_global_log :
    ((Session.start 0 0).addGlobal ⟨0⟩).2.store.hasLocal ⟨0⟩ "log10" = true ∧
    tokenize "" = .ok #[.eof 0] ∧
    tokenize ("" ++ " " ++ "log10" ++ " " ++ "") =
      .ok #[⟨.identifier, "log", ⟨1, 4⟩⟩, ⟨.number, "10", ⟨4, 6⟩⟩, .eof 7] ∧
    tokenize ("" ++ " " ++ "log10" ++ " " ++ "") ≠
      .ok (identifierBetween "" "log10" #[.eof 0] #[.eof 0]) := by
  have hbound : ((Session.start 0 0).addGlobal ⟨0⟩).2.store.hasLocal ⟨0⟩ "log10" = true :=
    ((Session.start 0 0).hasLocal_addGlobal ⟨0⟩ "log10").2 (by decide +kernel)
  have hempty : tokenize "" = .ok #[.eof 0] := by cbv
  refine ⟨hbound, hempty, by cbv, fun hread => ?_⟩
  have hname := (tokenize_between_iff "" "log10" "" (by decide) hempty hempty).1 hread
  exact absurd hname (by decide)

end ScriptCore
