import TemplateAssist.Proofs.Lint.TagBalance

/-!
# The grammar of nested tags

The findings about the nesting of tags are those for end tags that close nothing and for bodies
that stay open.  There are none of them exactly when the tags of the document are nested properly.

* `Balanced` is the grammar of properly nested events: nothing, or a body with its end tag
  and properly nested events inside of it and after it.
* `Closes tags` is the same for events that follow when bodies of `tags` are open already.  It is
  what can be followed along a run; `closes_opens_iff` and `closes_closes_iff` are the two steps.
* `forall_not_isNesting_iff` is the result, for any stack of open bodies.
-/

set_option autoImplicit false

namespace TemplateAssist

/-- Whether a problem is about how tags and end tags are nested. -/
def Problem.isNesting : Problem → Bool
  | unexpectedEnd _ => true
  | wrongEnd _ _ => true
  | unclosedTag _ => true
  | _ => false

namespace TagBalance

/-! ## Balanced events -/

/-- Whether an event opens or closes a body. -/
def Event.isBody : Event → Bool
  | opens _ => true
  | closes _ => true
  | _ => false

/-- The blocks that open and close bodies, by what they say. -/
def bodyEvents (settings : Settings) (blocks : List Block) : List Event :=
  (blocks.map (·.event settings)).filter Event.isBody

/-- Properly nested events. -/
inductive Balanced : List Event → Prop
  | nil : Balanced []
  | body (tag : Tag) {inside after : List Event} : Balanced inside → Balanced after →
      Balanced (.opens tag :: (inside ++ .closes tag :: after))

/-- Events that close the open bodies of `tags`, innermost first, with balanced events between. -/
def Closes : List Tag → List Event → Prop
  | [], events => Balanced events
  | tag :: tags, events =>
    ∃ inside after, Balanced inside ∧ events = inside ++ .closes tag :: after ∧ Closes tags after

theorem Balanced.of_opens {tag : Tag} {events : List Event} (h : Balanced (.opens tag :: events)) :
    ∃ inside after, Balanced inside ∧ events = inside ++ .closes tag :: after ∧ Balanced after := by
  cases h with
  | body _ hinside hafter => exact ⟨_, _, hinside, rfl, hafter⟩

theorem not_balanced_closes {tag : Tag} {events : List Event} :
    ¬ Balanced (.closes tag :: events) := nofun

theorem closes_nil_iff {tags : List Tag} : Closes tags [] ↔ tags = [] := by
  cases tags with
  | nil => exact ⟨fun _ ↦ rfl, fun _ ↦ .nil⟩
  | cons tag tags =>
    refine iff_of_false ?_ nofun
    rintro ⟨inside, after, -, heq, -⟩
    cases inside <;> cases heq

/-- A body that is opened is one more to be closed. -/
theorem closes_opens_iff {tag : Tag} {tags : List Tag} {events : List Event} :
    Closes tags (.opens tag :: events) ↔ Closes (tag :: tags) events := by
  cases tags with
  | nil =>
    constructor
    · exact Balanced.of_opens
    · rintro ⟨inside, after, hinside, rfl, hafter⟩
      exact .body tag hinside hafter
  | cons outer tags =>
    constructor
    · rintro ⟨between, rest, hbetween, heq, hrest⟩
      cases between with
      | nil => cases heq
      | cons e between =>
        obtain ⟨rfl, rfl⟩ := List.cons.inj heq
        obtain ⟨inside, after, hinside, rfl, hafter⟩ := hbetween.of_opens
        exact ⟨inside, after ++ .closes outer :: rest, hinside, List.append_assoc _ _ _,
          after, rest, hafter, rfl, hrest⟩
    · rintro ⟨inside, _, hinside, rfl, after, rest, hafter, rfl, hrest⟩
      refine ⟨.opens tag :: (inside ++ .closes tag :: after), rest, .body tag hinside hafter, ?_,
        hrest⟩
      rw [List.cons_append, List.append_assoc]
      rfl

/-- An end tag closes the innermost body. -/
theorem closes_closes_iff {tag : Tag} {tags : List Tag} {events : List Event} :
    Closes tags (.closes tag :: events) ↔ tags.head? = some tag ∧ Closes tags.tail events := by
  cases tags with
  | nil => exact iff_of_false not_balanced_closes nofun
  | cons inner tags =>
    constructor
    · rintro ⟨inside, after, hinside, heq, hafter⟩
      cases inside with
      | nil =>
        obtain ⟨htag, rfl⟩ := List.cons.inj heq
        rw [Event.closes.inj htag]
        exact ⟨rfl, hafter⟩
      | cons e inside =>
        rw [← (List.cons.inj heq).1] at hinside
        exact absurd hinside not_balanced_closes
    · rintro ⟨hhead, hafter⟩
      rw [← Option.some.inj hhead]
      exact ⟨[], events, .nil, rfl, hafter⟩

/-! ## No findings about the nesting -/

section

variable {settings : Settings} {b : Block}

theorem isNesting_of_mem_remarks {d : Finding} (h : d ∈ b.remarks settings) :
    d.problem.isNesting = false := by
  unfold Block.remarks at h
  split at h
  · rcases List.mem_append.1 h with h | h
    · obtain ⟨meant, -, rfl⟩ := Option.map_eq_some_iff.1 (Option.mem_toList.1 h)
      rfl
    · split at h
      · rw [List.mem_singleton.1 h]
        rfl
      · cases h
  · cases h

theorem isNesting_unmatchedEnd (tag : Tag) (top : Option Pending) :
    (unmatchedEnd b tag top).problem.isNesting = true := by
  cases top <;> rfl

theorem bodyEvents_of_isBody (h : (b.event settings).isBody = true) (rest : List Block) :
    bodyEvents settings (b :: rest) = b.event settings :: bodyEvents settings rest := by
  rw [bodyEvents, List.map_cons, List.filter_cons_of_pos h]
  rfl

theorem bodyEvents_of_not_isBody (h : (b.event settings).isBody = false) (rest : List Block) :
    bodyEvents settings (b :: rest) = bodyEvents settings rest := by
  rw [bodyEvents, List.map_cons, List.filter_cons_of_neg (by rw [h]; exact Bool.noConfusion)]
  rfl

/-- **Balance**: nothing about the nesting is reported exactly when the tags that follow close the
bodies that are open, and are nested properly. -/
theorem forall_not_isNesting_iff (stack : List Pending) (blocks : List Block) :
    (∀ d ∈ check settings stack blocks, d.problem.isNesting = false) ↔
      Closes (stack.map (·.tag)) (bodyEvents settings blocks) := by
  induction blocks generalizing stack with
  | nil =>
    rw [check, show bodyEvents settings [] = [] from rfl, closes_nil_iff, List.map_eq_nil_iff]
    constructor
    · intro h
      cases stack with
      | nil => rfl
      | cons top below => exact absurd (h top.unclosed (by simp)) (Bool.noConfusion ·)
    · rintro rfl
      exact fun d hd ↦ absurd hd List.not_mem_nil
  | cons b rest ih =>
    rw [check_cons, List.forall_mem_append]
    cases he : b.event settings with
    | opens tag =>
      rw [visit_opens stack he, bodyEvents_of_isBody (by rw [he]; rfl), he, closes_opens_iff, ih]
      exact and_iff_right fun d hd ↦ absurd hd List.not_mem_nil
    | closes tag =>
      rw [visit_closes stack he, bodyEvents_of_isBody (by rw [he]; rfl), he, closes_closes_iff,
        List.head?_map, ← List.map_tail]
      by_cases htop : stack.head?.map (·.tag) = some tag
      · rw [if_pos htop, ih]
        exact and_congr (iff_of_true (fun d hd ↦ absurd hd List.not_mem_nil) htop) Iff.rfl
      · rw [if_neg htop]
        refine iff_of_false (fun h ↦ ?_) (fun h ↦ htop h.1)
        have hreported := h.1 _ (List.mem_singleton.2 rfl)
        rw [isNesting_unmatchedEnd] at hreported
        exact Bool.noConfusion hreported
    | invalid =>
      rw [visit_other stack (by rw [he]; exact nofun) (by rw [he]; exact nofun), ih,
        bodyEvents_of_not_isBody (by rw [he]; rfl)]
      exact and_iff_right fun d ↦ isNesting_of_mem_remarks
    | neutral =>
      rw [visit_other stack (by rw [he]; exact nofun) (by rw [he]; exact nofun), ih,
        bodyEvents_of_not_isBody (by rw [he]; rfl)]
      exact and_iff_right fun d ↦ isNesting_of_mem_remarks

end

end TagBalance
end TemplateAssist
