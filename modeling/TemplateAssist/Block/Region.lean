import TemplateAssist.Block.Basic

/-!
# What the blocks of a text are

The blocks of a text described without going back and without memory, as one recursion on the text
that is left.  Between blocks it looks for an opener; in a block it looks for a closer, and where a
quote starts a string literal it goes on after the end of the literal.  This is the meaning of a
text; `Walk` is the way to compute it with a bounded number of steps.
-/

set_option autoImplicit false

namespace TemplateAssist
namespace Region

/-- How many characters after a quote the string literal that it starts ends, the closing quote
included; `none` if the line or the text ends first.  A backslash carries the next character
along. -/
def stringLength? (quote : Char) : Text → Option Nat
  | [] => none
  | '\n' :: _ => none
  | '\\' :: [] => none
  | '\\' :: _ :: rest => (stringLength? quote rest).map (· + 2)
  | c :: rest => if c = quote then some 1 else (stringLength? quote rest).map (· + 1)

@[simp]
theorem stringLength?_nil (quote : Char) : stringLength? quote [] = none := rfl

@[simp]
theorem stringLength?_newline (quote : Char) (rest : Text) :
    stringLength? quote ('\n' :: rest) = none := rfl

@[simp]
theorem stringLength?_backslash (quote : Char) (rest : Text) :
    stringLength? quote ('\\' :: rest) = (stringLength? quote (rest.drop 1)).map (· + 2) := by
  cases rest <;> rfl

theorem stringLength?_cons {quote c : Char} (rest : Text) (hn : c ≠ '\n') (hb : c ≠ '\\') :
    stringLength? quote (c :: rest)
      = if c = quote then some 1 else (stringLength? quote rest).map (· + 1) := by
  rw [stringLength?]
  · intro h; exact absurd h hn
  · intro h; exact absurd h hb
  · intro d rest' h; exact absurd h hb

/-- A string literal ends within the text. -/
theorem stringLength?_le {quote : Char} {t : Text} {n : Nat} (h : stringLength? quote t = some n) :
    n ≤ t.length := by
  fun_induction stringLength? quote t generalizing n with
  | case1 => simp at h
  | case2 => simp at h
  | case3 => simp at h
  | case4 c rest ih =>
    obtain ⟨m, hm, rfl⟩ := Option.map_eq_some_iff.1 h
    have := ih hm
    simp only [List.length_cons]
    omega
  | case5 rest =>
    obtain rfl := Option.some.inj h
    simp
  | case6 c rest _ _ _ _ ih =>
    obtain ⟨m, hm, rfl⟩ := Option.map_eq_some_iff.1 h
    have := ih hm
    simp only [List.length_cons]
    omega

/-- The length of the string literal at a place in a block of some kind, without its first quote.
Comments hold no string literals. -/
def literalAt? (kind : BlockKind) (c : Char) (rest : Text) : Option Nat :=
  if kind = .comment then none else (Quote.ofChar? c).bind fun q ↦ stringLength? q.char rest

@[simp]
theorem literalAt?_comment (c : Char) (rest : Text) : literalAt? .comment c rest = none := rfl

theorem literalAt?_of_ofChar?_eq_none {kind : BlockKind} {c : Char} (rest : Text)
    (h : Quote.ofChar? c = none) : literalAt? kind c rest = none := by
  rw [literalAt?, h]
  split <;> rfl

theorem literalAt?_quote {kind : BlockKind} (quote : Quote) (rest : Text) (h : kind ≠ .comment) :
    literalAt? kind quote.char rest = stringLength? quote.char rest := by
  rw [literalAt?, if_neg h, Quote.ofChar?_eq_some_iff.2 rfl, Option.bind_some]

/-- The items of the text that is left.  `open?` has the kind of the open block, the offset of its
opener and the text after it; `offset` is where the remaining text starts. -/
def items (open? : Option (BlockKind × Nat × Text)) (offset : Nat) (t : Text) : List Item :=
  match t with
  | [] => (open?.map fun (_, start, _) ↦ Item.unclosed start offset).toList
  | c :: rest =>
    match open? with
    | none =>
      match BlockKind.opening? (c :: rest) with
      | some (kind, _) => items (some (kind, offset, rest.drop 1)) (offset + 2) (rest.drop 1)
      | none => items none (offset + 1) rest
    | some (kind, start, body) =>
      match BlockKind.closing? (c :: rest) with
      | some (found, _) =>
        let raw := body.take (offset - (start + 2))
        (if found = kind then Item.block (Block.ofRaw kind start raw)
          else Item.mismatch offset kind found) :: items none (offset + 2) (rest.drop 1)
      | none =>
        match literalAt? kind c rest with
        | some n => items open? (offset + 1 + n) (rest.drop n)
        | none => items open? (offset + 1) rest
termination_by t.length
decreasing_by all_goals simp only [List.length_cons, List.length_drop]; omega

/-! ## The recursion, case by case -/

@[simp]
theorem items_none_nil (offset : Nat) : items none offset [] = [] := by
  rw [items]; rfl

@[simp]
theorem items_some_nil (kind : BlockKind) (start : Nat) (body : Text) (offset : Nat) :
    items (some (kind, start, body)) offset [] = [.unclosed start offset] := by
  rw [items]; rfl

theorem items_opener (kind : BlockKind) (offset : Nat) (rest : Text) :
    items none offset (kind.opener ++ rest)
      = items (some (kind, offset, rest)) (offset + 2) rest := by
  cases kind <;> rw [BlockKind.opener, List.cons_append, items] <;> rfl

theorem items_outside {c : Char} {rest : Text} (offset : Nat)
    (h : BlockKind.opening? (c :: rest) = none) :
    items none offset (c :: rest) = items none (offset + 1) rest := by
  rw [items]
  simp only [h]

theorem items_closer (kind : BlockKind) (start : Nat) (body : Text) (offset : Nat)
    (found : BlockKind) (rest : Text) :
    items (some (kind, start, body)) offset (found.closer ++ rest)
      = (if found = kind then Item.block (Block.ofRaw kind start (body.take (offset - (start + 2))))
          else Item.mismatch offset kind found) :: items none (offset + 2) rest := by
  cases found <;> rw [BlockKind.closer, List.cons_append, items] <;> rfl

theorem items_literal {kind : BlockKind} {c : Char} {rest : Text} {n : Nat} (start : Nat)
    (body : Text) (offset : Nat) (hc : BlockKind.closing? (c :: rest) = none)
    (hl : literalAt? kind c rest = some n) :
    items (some (kind, start, body)) offset (c :: rest)
      = items (some (kind, start, body)) (offset + 1 + n) (rest.drop n) := by
  rw [items]
  simp only [hc, hl]

theorem items_inside {kind : BlockKind} {c : Char} {rest : Text} (start : Nat)
    (body : Text) (offset : Nat) (hc : BlockKind.closing? (c :: rest) = none)
    (hl : literalAt? kind c rest = none) :
    items (some (kind, start, body)) offset (c :: rest)
      = items (some (kind, start, body)) (offset + 1) rest := by
  rw [items]
  simp only [hc, hl]

end Region
end TemplateAssist
