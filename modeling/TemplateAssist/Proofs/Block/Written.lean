import TemplateAssist.Proofs.Block.Walk

/-!
# Reading back blocks that are written down

A block is written as its opener, some text and its closer.  If the text fits between the
delimiters, reading finds exactly that block and goes on after it.

* `Content` is the grammar of what stands between delimiters: single characters, and complete
  string literals.  Which characters are allowed in either is left open.
* `BlockKind.Fits` is the most that each kind of block can hold.  A comment may hold anything but
  a closing brace, for it has no literals; in the other kinds a closing brace has to stand in a
  string literal.
* `items_write` is the result, and `items_prose` its counterpart for the text between blocks.
  Where no text follows, literals may also be broken (`items_write_last`).
* A document is a list of `Passage`s, some of them blocks; `Passage.items_flatMap_write` says that
  these are read back wherever the document starts.
-/

set_option autoImplicit false

namespace TemplateAssist

/-! ## Texts between delimiters -/

/-- A text of characters of the class `plain`, and of string literals whose body is of characters
of the class `quoted` for their kind of quote. -/
inductive Content (plain : Char → Prop) (quoted : Quote → Char → Prop) : Text → Prop
  | nil : Content plain quoted []
  | char {c : Char} {rest : Text} (hc : plain c) (h : Content plain quoted rest) :
      Content plain quoted (c :: rest)
  | literal {quote : Quote} {body rest : Text} (hb : ∀ c ∈ body, quoted quote c)
      (h : Content plain quoted rest) :
      Content plain quoted (quote.char :: (body ++ quote.char :: rest))

namespace Content

theorem mono {plain plain' : Char → Prop} {quoted quoted' : Quote → Char → Prop} {t : Text}
    (h : Content plain quoted t) (hp : ∀ c, plain c → plain' c)
    (hq : ∀ q c, quoted q c → quoted' q c) : Content plain' quoted' t := by
  induction h with
  | nil => exact .nil
  | char hc _ ih => exact .char (hp _ hc) ih
  | literal hb _ ih => exact .literal (fun c hc ↦ hq _ c (hb c hc)) ih

theorem append {plain : Char → Prop} {quoted : Quote → Char → Prop} {t u : Text}
    (ht : Content plain quoted t) (hu : Content plain quoted u) :
    Content plain quoted (t ++ u) := by
  induction ht with
  | nil => exact hu
  | char hc _ ih => exact .char hc ih
  | @literal quote body rest hb _ ih =>
    rw [List.cons_append, List.append_assoc, List.cons_append]
    exact .literal hb ih

theorem of_plain {plain : Char → Prop} {quoted : Quote → Char → Prop} {t : Text}
    (h : ∀ c ∈ t, plain c) : Content plain quoted t := by
  induction t with
  | nil => exact .nil
  | cons c t ih =>
    exact .char (h c List.mem_cons_self) (ih fun d hd ↦ h d (List.mem_cons_of_mem c hd))

/-- A property of characters that all three classes have holds throughout. -/
theorem forall_mem {plain : Char → Prop} {quoted : Quote → Char → Prop} {P : Char → Prop}
    {t : Text} (h : Content plain quoted t) (hp : ∀ c, plain c → P c)
    (hq : ∀ q c, quoted q c → P c) (hquote : ∀ q : Quote, P q.char) : ∀ c ∈ t, P c := by
  induction h with
  | nil => exact fun c hc ↦ absurd hc List.not_mem_nil
  | char hc _ ih =>
    intro d hd
    rcases List.mem_cons.1 hd with rfl | hd
    · exact hp _ hc
    · exact ih d hd
  | @literal quote body rest hb _ ih =>
    intro d hd
    rcases List.mem_cons.1 hd with rfl | hd
    · exact hquote quote
    · rcases List.mem_append.1 hd with hd | hd
      · exact hq quote d (hb d hd)
      · rcases List.mem_cons.1 hd with rfl | hd
        · exact hquote quote
        · exact ih d hd

end Content

namespace Region

/-- The characters that mean nothing where they stand alone in an expression or a statement. -/
def Inert (c : Char) : Prop := c ≠ '}' ∧ Quote.ofChar? c = none

/-- The characters that a string literal can hold as they are. -/
def Quotable (quote : Quote) (c : Char) : Prop := c ≠ quote.char ∧ c ≠ '\\' ∧ c ≠ '\n'

end Region

/-- What a block of each kind can hold. -/
def BlockKind.Fits : BlockKind → Text → Prop
  | .comment => fun raw ↦ '}' ∉ raw
  | .statement => Content Region.Inert Region.Quotable
  | .expression => fun raw ↦ Content Region.Inert Region.Quotable raw ∧
      raw.getLast? ≠ some '%' ∧ raw.getLast? ≠ some '#'

/-- A block as it is written. -/
def BlockKind.write (kind : BlockKind) (raw : Text) : Text := kind.opener ++ (raw ++ kind.closer)

@[simp]
theorem BlockKind.length_write (kind : BlockKind) (raw : Text) :
    (kind.write raw).length = raw.length + 4 := by
  cases kind <;> simp [write, opener, closer]

/-- A block written with a blank inside each delimiter. -/
def BlockKind.spaced (kind : BlockKind) (inner : Text) : Text :=
  kind.write (' ' :: (inner ++ [' ']))

theorem BlockKind.spaced_append (kind : BlockKind) (inner rest : Text) :
    kind.spaced inner ++ rest
      = kind.opener ++ ' ' :: (inner ++ ' ' :: (kind.closer ++ rest)) := by
  simp [spaced, write]

namespace Region

/-! ## Passing over a text in a block -/

/-- In an open block of this kind, `raw` before `rest` is passed over. -/
def Passes (kind : BlockKind) (raw rest : Text) : Prop :=
  ∀ start body offset, items (some (kind, start, body)) offset (raw ++ rest)
    = items (some (kind, start, body)) (offset + raw.length) rest

theorem passes_nil (kind : BlockKind) (rest : Text) : Passes kind [] rest :=
  fun _ _ _ ↦ rfl

theorem Passes.append {kind : BlockKind} {u v rest : Text} (hu : Passes kind u (v ++ rest))
    (hv : Passes kind v rest) : Passes kind (u ++ v) rest := by
  intro start body offset
  rw [List.append_assoc, hu, hv, List.length_append, Nat.add_assoc]

theorem passes_char {kind : BlockKind} {c : Char} {rest : Text} (hc : c ≠ '}')
    (hb : c = '%' ∨ c = '#' → rest.head? ≠ some '}') (hl : literalAt? kind c rest = none) :
    Passes kind [c] rest :=
  fun start body offset ↦
    items_inside start body offset (BlockKind.closing?_cons_eq_none hc hb) hl

/-- A body without quotes of its own kind, backslashes and line ends is read to the end. -/
theorem stringLength?_body {quote : Quote} {body : Text} (rest : Text)
    (h : ∀ c ∈ body, Quotable quote c) :
    stringLength? quote.char (body ++ quote.char :: rest) = some (body.length + 1) := by
  induction body with
  | nil =>
    have hn : quote.char ≠ '\n' := by cases quote <;> decide
    have hb : quote.char ≠ '\\' := by cases quote <;> decide
    rw [List.nil_append, stringLength?_cons rest hn hb, if_pos rfl, List.length_nil]
  | cons c body ih =>
    obtain ⟨hq, hb, hn⟩ := h c List.mem_cons_self
    rw [List.cons_append, stringLength?_cons _ hn hb, if_neg hq,
      ih fun d hd ↦ h d (List.mem_cons_of_mem c hd), Option.map_some, List.length_cons]

theorem passes_literal {kind : BlockKind} {quote : Quote} {body : Text} (rest : Text)
    (hk : kind ≠ .comment) (h : ∀ c ∈ body, Quotable quote c) :
    Passes kind (quote.char :: (body ++ [quote.char])) rest := by
  intro start body' offset
  have hclose : BlockKind.closing? (quote.char :: (body ++ quote.char :: rest)) = none :=
    BlockKind.closing?_cons_eq_none (by cases quote <;> decide)
      (by cases quote <;> simp [Quote.char])
  have hlit := (literalAt?_quote quote (body ++ quote.char :: rest) hk).trans
    (stringLength?_body rest h)
  have htext : quote.char :: (body ++ [quote.char]) ++ rest
      = quote.char :: (body ++ quote.char :: rest) := by simp
  rw [htext, items_literal start body' offset hclose hlit]
  simp [Nat.add_assoc, Nat.add_comm 1]

/-- The signs that start a closer if a brace follows. -/
def EndsOpen (raw : Text) : Prop := raw.getLast? = some '%' ∨ raw.getLast? = some '#'

theorem EndsOpen.append {raw : Text} (h : EndsOpen raw) (before : Text) :
    EndsOpen (before ++ raw) := by
  rw [EndsOpen, List.getLast?_append]
  rcases h with h | h
  · exact .inl (by rw [h]; rfl)
  · exact .inr (by rw [h]; rfl)

theorem head?_append_ne {raw rest : Text} (hraw : raw.head? ≠ some '}')
    (hrest : raw = [] → rest.head? ≠ some '}') : (raw ++ rest).head? ≠ some '}' := by
  cases raw with
  | nil => exact hrest rfl
  | cons c raw => exact hraw

theorem passes_content {kind : BlockKind} {raw rest : Text} (hk : kind ≠ .comment)
    (h : Content Inert Quotable raw) (hend : EndsOpen raw → rest.head? ≠ some '}') :
    Passes kind raw rest := by
  induction h with
  | nil => exact passes_nil kind rest
  | @char c raw hc h ih =>
    have hend' : EndsOpen raw → rest.head? ≠ some '}' := fun he ↦ hend (he.append [c])
    refine Passes.append (u := [c]) (passes_char hc.1 ?_ ?_) (ih hend')
    · intro hsign
      refine head?_append_ne ?_ ?_
      · cases h with
        | nil => simp
        | char hd _ => simpa using hd.1
        | @literal quote _ _ _ _ => cases quote <;> simp [Quote.char]
      · rintro rfl
        exact hend (by rcases hsign with rfl | rfl <;> simp [EndsOpen])
    · exact literalAt?_of_ofChar?_eq_none _ hc.2
  | @literal quote body raw hb h ih =>
    have hsplit : quote.char :: (body ++ quote.char :: raw)
        = (quote.char :: (body ++ [quote.char])) ++ raw := by simp
    rw [hsplit] at hend ⊢
    exact (passes_literal (raw ++ rest) hk hb).append (ih fun he ↦ hend (he.append _))

theorem passes_comment {raw rest : Text} (h : '}' ∉ raw) (hrest : rest.head? ≠ some '}') :
    Passes .comment raw rest := by
  induction raw with
  | nil => exact passes_nil _ rest
  | cons c raw ih =>
    have hc : c ≠ '}' := fun hc ↦ h (hc ▸ List.mem_cons_self)
    have hraw : '}' ∉ raw := fun hr ↦ h (List.mem_cons_of_mem c hr)
    refine Passes.append (u := [c]) (passes_char hc ?_ (literalAt?_comment c _)) (ih hraw)
    intro _
    refine head?_append_ne ?_ fun _ ↦ hrest
    intro hh
    exact hraw (List.mem_of_mem_head? hh)

/-- A text without quotes is passed over if no closer stands in it. -/
theorem passes_of_closer_not_infix {kind : BlockKind} {raw rest : Text}
    (hquotes : ∀ c ∈ raw, Quote.ofChar? c = none)
    (hclosers : ∀ found : BlockKind, ¬ found.closer <:+: raw) (hrest : rest.head? ≠ some '}') :
    Passes kind raw rest := by
  induction raw with
  | nil => exact passes_nil kind rest
  | cons c raw ih =>
    obtain ⟨hc, hquotes⟩ := List.forall_mem_cons.1 hquotes
    have hnone : BlockKind.closing? (c :: (raw ++ rest)) = none := by
      refine Option.eq_none_iff_forall_ne_some.2 fun ⟨found, after⟩ hfound ↦ ?_
      have htext := BlockKind.closing?_eq_some_iff.1 hfound
      obtain ⟨x, hx⟩ : ∃ x, found.closer = [x, '}'] := by cases found <;> exact ⟨_, rfl⟩
      rw [hx] at htext
      obtain ⟨rfl, hnext⟩ := List.cons.inj htext
      cases raw with
      | nil => exact hrest (by rw [show rest = _ from hnext]; rfl)
      | cons d raw =>
        obtain ⟨rfl, -⟩ := List.cons.inj hnext
        exact hclosers found (by rw [hx]; exact ⟨[], raw, rfl⟩)
    have hnext : Passes kind raw rest :=
      ih hquotes fun found h ↦ hclosers found (h.trans (List.suffix_cons c raw).isInfix)
    refine Passes.append (u := [c]) (fun start body offset ↦ ?_) hnext
    exact items_inside start body offset hnone (literalAt?_of_ofChar?_eq_none _ hc)

/-- A string literal ends with the quote that starts it. -/
theorem exists_of_stringLength?_eq {quote : Char} {t : Text} {n : Nat}
    (h : stringLength? quote t = some n) :
    ∃ body rest, t = body ++ quote :: rest ∧ n = body.length + 1 := by
  fun_induction stringLength? quote t generalizing n with
  | case1 => cases h
  | case2 => cases h
  | case3 => cases h
  | case4 c t ih =>
    obtain ⟨m, hm, rfl⟩ := Option.map_eq_some_iff.1 h
    obtain ⟨body, rest, rfl, rfl⟩ := ih hm
    exact ⟨'\\' :: c :: body, rest, rfl, rfl⟩
  | case5 t =>
    obtain rfl := Option.some.inj h
    exact ⟨[], t, rfl, rfl⟩
  | case6 c t _ _ _ _ ih =>
    obtain ⟨m, hm, rfl⟩ := Option.map_eq_some_iff.1 h
    obtain ⟨body, rest, rfl, rfl⟩ := ih hm
    exact ⟨c :: body, rest, rfl, rfl⟩

theorem literalAt?_append_le {kind : BlockKind} {c : Char} {raw rest : Text} {n : Nat}
    (hrest : ∀ q : Quote, q.char ∉ rest) (h : literalAt? kind c (raw ++ rest) = some n) :
    n ≤ raw.length := by
  rw [literalAt?] at h
  split at h
  · cases h
  · obtain ⟨quote, -, hlength⟩ := Option.bind_eq_some_iff.1 h
    obtain ⟨body, after, htext, rfl⟩ := exists_of_stringLength?_eq hlength
    refine Nat.le_of_not_lt fun hlt ↦ ?_
    obtain ⟨middle, hbody⟩ : raw <+: body :=
      List.prefix_of_prefix_length_le ⟨rest, rfl⟩ ⟨_, htext.symm⟩ (by omega)
    rw [← hbody, List.append_assoc, List.append_cancel_left_eq] at htext
    exact hrest quote (by rw [htext]; simp)

/-- Where no quote comes after it, a text without closing braces is passed over whatever quotes it
has: a literal that does not end in it does not end at all, and so is none. -/
theorem passes_of_quotes_not_mem {kind : BlockKind} {raw rest : Text} (hraw : '}' ∉ raw)
    (hend : EndsOpen raw → rest.head? ≠ some '}') (hrest : ∀ q : Quote, q.char ∉ rest) :
    Passes kind raw rest := by
  induction hn : raw.length using Nat.strongRecOn generalizing raw with
  | ind n ih =>
    cases raw with
    | nil => exact passes_nil kind rest
    | cons c raw =>
      have hc : c ≠ '}' := fun hc ↦ hraw (hc ▸ List.mem_cons_self)
      have hnext : c = '%' ∨ c = '#' → (raw ++ rest).head? ≠ some '}' := by
        intro hsign
        refine head?_append_ne (fun hh ↦ hraw ?_) ?_
        · exact List.mem_cons_of_mem c (List.mem_of_mem_head? hh)
        · rintro rfl
          exact hend (by rcases hsign with rfl | rfl <;> simp [EndsOpen])
      have hdrop : ∀ k, Passes kind (raw.drop k) rest := by
        intro k
        refine ih _ ?_ (fun hm ↦ hraw ?_) (fun he ↦ hend ?_) rfl
        · simp only [← hn, List.length_cons, List.length_drop]
          omega
        · exact List.mem_cons_of_mem c (List.mem_of_mem_drop hm)
        · have happend := he.append (c :: raw.take k)
          rwa [List.cons_append, List.take_append_drop] at happend
      cases hl : literalAt? kind c (raw ++ rest) with
      | none => exact Passes.append (u := [c]) (passes_char hc hnext hl) (hdrop 0)
      | some k =>
        have hk := literalAt?_append_le hrest hl
        intro start body offset
        rw [List.cons_append, items_literal start body offset
          (BlockKind.closing?_cons_eq_none hc hnext) hl, List.drop_append_of_le_length hk,
          hdrop k start body, List.length_drop, List.length_cons]
        congr 1
        omega

/-! ## A whole block, and the text between blocks -/

theorem passes_of_fits {kind : BlockKind} {raw : Text} (rest : Text) (h : kind.Fits raw) :
    Passes kind raw (kind.closer ++ rest) := by
  cases kind with
  | comment => exact passes_comment h (by simp [BlockKind.closer])
  | statement => exact passes_content (by decide) h fun _ ↦ by simp [BlockKind.closer]
  | expression =>
    obtain ⟨hc, hp, hh⟩ := h
    refine passes_content (by decide) hc ?_
    rintro (he | he)
    · exact absurd he hp
    · exact absurd he hh

theorem items_write_of_passes {kind : BlockKind} {raw rest : Text} (offset : Nat)
    (h : Passes kind raw (kind.closer ++ rest)) :
    items none offset (kind.write raw ++ rest)
      = .block (Block.ofRaw kind offset raw)
        :: items none (offset + (kind.write raw).length) rest := by
  have hlen : offset + 2 + raw.length - (offset + 2) = raw.length := by omega
  rw [BlockKind.write, List.append_assoc, List.append_assoc, items_opener, h, items_closer,
    if_pos rfl, hlen, List.take_left, ← BlockKind.write, BlockKind.length_write]
  congr 2
  omega

/-- **A block that is written is read back**, and reading goes on after it. -/
theorem items_write {kind : BlockKind} {raw : Text} (offset : Nat) (rest : Text)
    (h : kind.Fits raw) :
    items none offset (kind.write raw ++ rest)
      = .block (Block.ofRaw kind offset raw)
        :: items none (offset + (kind.write raw).length) rest :=
  items_write_of_passes offset (passes_of_fits rest h)

/-- **A block at the end of a text is read back** even if its quotes make no literals. -/
theorem items_write_last {kind : BlockKind} {raw : Text} (offset : Nat) (hraw : '}' ∉ raw)
    (hend : kind = .expression → ¬ EndsOpen raw) :
    items none offset (kind.write raw) = [.block (Block.ofRaw kind offset raw)] := by
  have hpasses : Passes kind raw (kind.closer ++ []) := by
    refine passes_of_quotes_not_mem hraw (fun he ↦ ?_) fun q ↦ ?_
    · cases kind with
      | expression => exact absurd he (hend rfl)
      | statement => simp [BlockKind.closer]
      | comment => simp [BlockKind.closer]
    · cases kind <;> cases q <;> decide
  have hread := items_write_of_passes offset hpasses
  rwa [List.append_nil, items_none_nil] at hread

/-- Text without opening braces has no blocks. -/
theorem items_prose {prose : Text} (offset : Nat) (rest : Text) (h : '{' ∉ prose) :
    items none offset (prose ++ rest) = items none (offset + prose.length) rest := by
  induction prose generalizing offset with
  | nil => rfl
  | cons c prose ih =>
    have hc : c ≠ '{' := fun hc ↦ h (hc ▸ List.mem_cons_self)
    rw [List.cons_append, items_outside offset (BlockKind.opening?_cons_eq_none _ hc),
      ih (offset + 1) fun hp ↦ h (List.mem_cons_of_mem c hp), List.length_cons]
    congr 1
    omega

end Region

/-! ## Whole documents -/

/-- The offset of the first character that is left when blanks are taken away. -/
theorem Text.length_sub_length_trimLeft (t : Text) :
    t.length - t.trimLeft.length = (t.takeWhile isBlank).length := by
  have hsplit := congrArg List.length (t.takeWhile_append_dropWhile (p := isBlank))
  rw [List.length_append] at hsplit
  show t.length - (t.dropWhile isBlank).length = _
  omega

/-- If reading comes upon blocks only, these are the blocks of the text, and none is broken. -/
theorem Text.blocks_brokenBlocks_of_items_eq {t : Text} {bs : List Block}
    (h : t.items = bs.map Item.block) : t.blocks = bs ∧ t.brokenBlocks = [] := by
  constructor
  · rw [blocks, h, List.filterMap_map]
    exact List.filterMap_some
  · rw [brokenBlocks, h, List.filterMap_map]
    exact List.filterMap_eq_nil_iff.2 fun _ _ ↦ rfl

/-- A passage of a document: text between blocks, or a block with what stands between its
delimiters. -/
inductive Passage where
  | prose (p : Text)
  | block (kind : BlockKind) (raw : Text)
  deriving DecidableEq, Repr

namespace Passage

/-- What a passage can hold. -/
def Fits : Passage → Prop
  | prose p => '{' ∉ p
  | block kind raw => kind.Fits raw

/-- A passage as it is written. -/
def write : Passage → Text
  | prose p => p
  | block kind raw => kind.write raw

/-- The blocks among passages that are written one after the other from `offset` on.  The content of
a block is what is written in it without the blanks around, and stands after those before it. -/
def blocksFrom (offset : Nat) : List Passage → List Block
  | [] => []
  | prose p :: passages => blocksFrom (offset + p.length) passages
  | block kind raw :: passages =>
    { kind := kind
      start := offset
      stop := offset + (kind.write raw).length
      content := raw.trim
      contentOffset := offset + 2 + (raw.takeWhile isBlank).length }
      :: blocksFrom (offset + (kind.write raw).length) passages

theorem items_flatMap_write {passages : List Passage} (offset : Nat)
    (h : ∀ passage ∈ passages, passage.Fits) :
    Region.items none offset (passages.flatMap write)
      = (blocksFrom offset passages).map .block := by
  induction passages generalizing offset with
  | nil => exact Region.items_none_nil offset
  | cons passage passages ih =>
    have hpassage : passage.Fits := h passage List.mem_cons_self
    have hpassages : ∀ passage ∈ passages, passage.Fits :=
      fun other hother ↦ h other (List.mem_cons_of_mem passage hother)
    rw [List.flatMap_cons]
    cases passage with
    | prose p =>
      show Region.items none offset (p ++ _) = _
      rw [Region.items_prose offset _ hpassage, ih _ hpassages]
      rfl
    | block kind raw =>
      show Region.items none offset (kind.write raw ++ _) = _
      rw [Region.items_write offset _ hpassage, ih _ hpassages, blocksFrom, List.map_cons,
        Block.ofRaw, Text.length_sub_length_trimLeft, BlockKind.length_write]
      simp only [Nat.add_assoc, Nat.add_comm 2]

/-- **Reading undoes writing.**  A document that is written passage by passage is read back as the
blocks among its passages, and none of them is broken. -/
theorem blocks_brokenBlocks_flatMap_write {passages : List Passage}
    (h : ∀ passage ∈ passages, passage.Fits) :
    Text.blocks (passages.flatMap write) = blocksFrom 0 passages ∧
      Text.brokenBlocks (passages.flatMap write) = [] := by
  refine Text.blocks_brokenBlocks_of_items_eq ?_
  rw [Text.items_eq_region]
  exact items_flatMap_write 0 h

/-- In `'}{{ '}}"' }}{# " %#}{%if '%}' #%}` closers stand in literals, and a quote in a comment
and one between blocks start none. -/
theorem blocks_brokenBlocks_flatMap_write_closersInLiterals :
    let first := '\'' :: (BlockKind.expression.closer ++ ['"', '\''])
    let third := "if '".toList ++ (BlockKind.statement.closer ++ "' #".toList)
    let passages : List Passage := [.prose ['\'', '}'], .block .expression (' ' :: first ++ [' ']),
      .block .comment " \" %".toList, .block .statement third]
    (∀ passage ∈ passages, passage.Fits) ∧
      Text.blocks (passages.flatMap write)
        = [⟨.expression, 2, 13, first, 5⟩, ⟨.comment, 13, 21, "\" %".toList, 16⟩,
          ⟨.statement, 21, 34, third, 23⟩] ∧
      Text.brokenBlocks (passages.flatMap write) = [] := by
  intro first third passages
  have hfirst : BlockKind.expression.Fits (' ' :: first ++ [' ']) := by
    have hbody : ∀ c ∈ BlockKind.expression.closer ++ ['"'], Region.Quotable .single c := by
      simp [BlockKind.closer, Region.Quotable, Quote.char]
    have hblank : Region.Inert ' ' := ⟨by decide, rfl⟩
    exact ⟨.char hblank (.literal hbody (.char hblank .nil)), by decide, by decide⟩
  have hthird : BlockKind.statement.Fits third := by
    have hword : ∀ c ∈ "if ".toList, Region.Inert c := by simp [Region.Inert, Quote.ofChar?]
    have hbody : ∀ c ∈ BlockKind.statement.closer, Region.Quotable .single c := by
      simp [BlockKind.closer, Region.Quotable, Quote.char]
    have hsign : ∀ c ∈ " #".toList, Region.Inert c := by simp [Region.Inert, Quote.ofChar?]
    exact (Content.of_plain hword).append (.literal hbody (.of_plain hsign))
  have hfits : ∀ passage ∈ passages, passage.Fits := by
    intro passage hpassage
    simp only [passages, List.mem_cons, List.not_mem_nil, or_false] at hpassage
    rcases hpassage with rfl | rfl | rfl | rfl
    · show '{' ∉ _
      decide
    · exact hfirst
    · show '}' ∉ _
      decide
    · exact hthird
  exact ⟨hfits, blocks_brokenBlocks_flatMap_write hfits⟩

end Passage
end TemplateAssist
