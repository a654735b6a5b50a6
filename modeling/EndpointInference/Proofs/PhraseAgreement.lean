import EndpointInference.Syntax.Grammar

/-!
# Phrases that agree on few tokens

Two phrases agree up to `n` if they read the same from fewer than `n` tokens; as long as no token
was taken, also from `n`. Phrases that are built in one way from phrases that agree do so as well.
There is an instance for each way to build a phrase, and whether two phrases agree is found by going
along their text. A token that is taken makes the demand on what follows a weaker one, so what
stands behind it or inside a group need not agree on `n` tokens (`Agree.behind`).
-/

namespace EndpointInference.Syntax

-- an instance is as large as the phrase that it is found for
set_option synthInstance.maxSize 4000

-- ---------------------------------------------------------------------------
-- Tokens
-- ---------------------------------------------------------------------------

namespace TokenTree

theorem size_pos (tree : TokenTree) : 0 < tree.size := by
  cases tree <;> simp [size]

theorem listSize_drop_le (count : Nat) (trees : List TokenTree) :
    listSize (trees.drop count) ≤ listSize trees := by
  induction trees generalizing count with
  | nil => simp
  | cons tree rest ih =>
    cases count with
    | zero => simp
    | succ count => exact Nat.le_trans (ih count) (Nat.le_add_left ..)

theorem listSize_drop_lt {count : Nat} {trees : List TokenTree} (hc : 0 < count)
    (ht : trees ≠ []) : listSize (trees.drop count) < listSize trees := by
  match count, trees with
  | count + 1, tree :: rest =>
    have hrest := listSize_drop_le count rest
    have htree := tree.size_pos
    simp only [List.drop_succ_cons, listSize]
    omega

end TokenTree

theorem Ahead.ne_nil_of_marks (h : Ahead.marks cs trees = true) : cs ≠ [] ∧ trees ≠ [] := by
  unfold Ahead.marks at h
  split at h <;> simp_all

/-- The number of tokens that are left, those inside groups included. -/
def Cursor.size (cursor : Cursor) : Nat :=
  TokenTree.listSize cursor.rest

-- ---------------------------------------------------------------------------
-- Agreement
-- ---------------------------------------------------------------------------

namespace Parser

variable {α β : Type}

class Takes (phrase : Parser α) : Prop where
  size_lt : phrase before = some (result, after) → after.size < before.size

class TakesIf (phrase : Parser Bool) : Prop where
  size_le : phrase before = some (result, after) → after.size ≤ before.size
  size_lt : phrase before = some (true, after) → after.size < before.size

def SameAt (before : Cursor) (left : Nat) (first second : Parser α) : Prop :=
  first before = second before ∧
    ∀ result after, first before = some (result, after) → after.size ≤ left

/-- Two phrases read the same from fewer than `n` tokens and, where none was taken, from `n`. -/
class Agree (n : Nat) (taken : Bool) (first second : Parser α) : Prop where
  same : ∀ size, size < n ∨ taken = false ∧ size = n →
    ∀ before : Cursor, before.size ≤ size → SameAt before size first second

theorem bind_eq_some {phrase : Parser α} {next : α → Parser β} :
    (phrase >>= next) before = some (result, after) ↔
      ∃ a between, phrase before = some (a, between) ∧ next a between = some (result, after) := by
  constructor
  · intro h
    obtain ⟨⟨a, between⟩, ha, hn⟩ := Option.bind_eq_some_iff.mp h
    exact ⟨a, between, ha, hn⟩
  · rintro ⟨a, between, ha, hn⟩
    exact Option.bind_eq_some_iff.mpr ⟨(a, between), ha, hn⟩

theorem SameAt.bind {p p' : Parser α} {f f' : α → Parser β} (hp : p before = p' before)
    (hf : ∀ a between, p before = some (a, between) → SameAt between left (f a) (f' a)) :
    SameAt before left (p >>= f) (p' >>= f') := by
  constructor
  · have hbind : ∀ (q : Parser α) (next : α → Parser β),
        (q >>= next) before = (q before).bind fun found => next found.1 found.2 := fun _ _ => rfl
    rw [hbind, hbind, ← hp]
    cases h : p before with
    | none => rfl
    | some found => exact (hf found.1 found.2 h).1
  · intro result after hr
    obtain ⟨a, between, ha, hn⟩ := bind_eq_some.mp hr
    exact (hf a between ha).2 result after hn

section
variable {n : Nat} {taken : Bool} {p p' q q' : Parser α} {f f' : α → Parser β}

theorem Agree.of_size_le
    (h : ∀ {before result after}, p before = some (result, after) → after.size ≤ before.size) :
    Agree n taken p p :=
  ⟨fun _ _ _ hb => ⟨rfl, fun _ _ hr => Nat.le_trans (h hr) hb⟩⟩

theorem size_le_of_agree (h : ∀ n, Agree n true p p) (hr : p before = some (result, after)) :
    after.size ≤ before.size :=
  (((h (before.size + 1)).same before.size (.inl (Nat.lt_succ_self _)) before
    (Nat.le_refl _)).2 result after hr)

theorem Agree.zero : Agree 0 true p p' := by
  constructor
  rintro size (hs | ⟨⟨⟩, -⟩)
  exact absurd hs (Nat.not_lt_zero size)

theorem Agree.succ (h : Agree n false p p') : Agree (n + 1) true p p' := by
  constructor
  rintro size (hs | ⟨⟨⟩, -⟩)
  exact h.same size ((Nat.lt_succ_iff_lt_or_eq.mp hs).imp_right fun heq => ⟨rfl, heq⟩)

instance [h : Takes p] : Agree n taken p p :=
  .of_size_le fun hr => Nat.le_of_lt (h.size_lt hr)

instance {p : Parser Bool} [h : TakesIf p] : Agree n taken p p :=
  .of_size_le h.size_le

theorem Agree.sameBehind {before between : Cursor} (h : Agree n true p p')
    (hs : size < n ∨ taken = false ∧ size = n) (hb : before.size ≤ size)
    (hlt : between.size < before.size) : SameAt between size p p' := by
  obtain ⟨heq, hsize⟩ := h.same (size - 1) (by omega) between (by omega)
  exact ⟨heq, fun result after hr => Nat.le_trans (hsize result after hr) (Nat.sub_le ..)⟩

-- ---------------------------------------------------------------------------
-- One phrase behind another
-- ---------------------------------------------------------------------------

theorem SameAt.andThen [hp : Agree n taken p p'] (hs : size < n ∨ taken = false ∧ size = n)
    (hb : before.size ≤ size)
    (hf : ∀ a between, between.size ≤ size → SameAt between size (f a) (f' a)) :
    SameAt before size (p >>= f) (p' >>= f') := by
  obtain ⟨heq, hsize⟩ := hp.same size hs before hb
  exact .bind heq fun a between ha => hf a between (hsize a between ha)

theorem Agree.andThen [Agree n taken p p'] (hf : ∀ a, Agree n taken (f a) (f' a)) :
    Agree n taken (p >>= f) (p' >>= f') :=
  ⟨fun size hs _ hb => .andThen hs hb fun a between hle => (hf a).same size hs between hle⟩

/-- Behind a token, phrases need only agree on what is left then. -/
theorem Agree.behind [ht : Takes p] [hp : Agree n taken p p']
    (hf : ∀ a, Agree n true (f a) (f' a)) : Agree n taken (p >>= f) (p' >>= f') := by
  refine ⟨fun size hs before hb => ?_⟩
  obtain ⟨heq, -⟩ := hp.same size hs before hb
  exact .bind heq fun a between ha => (hf a).sameBehind hs hb (ht.size_lt ha)

instance [Agree n taken p p'] [∀ a, Agree n taken (f a) (f' a)] :
    Agree n taken (p >>= f) (p' >>= f') :=
  .andThen inferInstance

instance (priority := high) [Takes p] [Agree n taken p p'] [∀ a, Agree n true (f a) (f' a)] :
    Agree n taken (p >>= f) (p' >>= f') :=
  .behind inferInstance

instance (priority := high) {p : Parser Bool} {f f' : Bool → Parser β} [hp : TakesIf p]
    [ht : Agree n true (f true) (f' true)] [hf : Agree n taken (f false) (f' false)] :
    Agree n taken (p >>= f) (p >>= f') := by
  refine ⟨fun size hs before hb => .bind rfl fun found between ha => ?_⟩
  cases found with
  | true => exact ht.sameBehind hs hb (hp.size_lt ha)
  | false => exact hf.same size hs between (Nat.le_trans (hp.size_le ha) hb)

-- what follows a pair or an option takes it apart
instance (priority := high) {γ : Type} {p p' : Parser (α × β)} {f f' : α × β → Parser γ}
    [Agree n taken p p'] [hf : ∀ a b, Agree n taken (f (a, b)) (f' (a, b))] :
    Agree n taken (p >>= f) (p' >>= f') :=
  .andThen fun found => hf found.1 found.2

instance (priority := high) {p p' : Parser (Option α)} {f f' : Option α → Parser β}
    [Agree n taken p p'] [hn : Agree n taken (f none) (f' none)]
    [hs : ∀ a, Agree n taken (f (some a)) (f' (some a))] :
    Agree n taken (p >>= f) (p' >>= f') :=
  .andThen fun found => by
    cases found with
    | none => exact hn
    | some found => exact hs found

theorem Takes.andKeep [hp : Takes p] (hf : ∀ a n, Agree n true (f a) (f a)) :
    Takes (p >>= f) := by
  refine ⟨fun h => ?_⟩
  obtain ⟨a, between, ha, hn⟩ := bind_eq_some.mp h
  exact Nat.lt_of_le_of_lt (size_le_of_agree (hf a) hn) (hp.size_lt ha)

instance (priority := high) [Takes p] [hf : ∀ a n, Agree n true (f a) (f a)] : Takes (p >>= f) :=
  .andKeep hf

instance [hp : ∀ n, Agree n true p p] [hf : ∀ a, Takes (f a)] : Takes (p >>= f) := by
  refine ⟨fun h => ?_⟩
  obtain ⟨a, between, ha, hn⟩ := bind_eq_some.mp h
  exact Nat.lt_of_lt_of_le ((hf a).size_lt hn) (size_le_of_agree hp ha)

-- ---------------------------------------------------------------------------
-- Choices
-- ---------------------------------------------------------------------------

instance {c : Prop} [Decidable c] [hp : Agree n taken p p'] [hq : Agree n taken q q'] :
    Agree n taken (if c then p else q) (if c then p' else q') := by
  split
  · exact hp
  · exact hq

instance (priority := high) [hq : Agree n taken q q'] :
    Agree n taken (if false = true then p else q) (if false = true then p' else q') :=
  hq

instance (priority := high) [hp : Agree n taken p p'] :
    Agree n taken (if (!false) = true then p else q) (if (!false) = true then p' else q') :=
  hp

instance {c : Prop} [Decidable c] [hp : Takes p] [hq : Takes q] :
    Takes (if c then p else q) := by
  split
  · exact hp
  · exact hq

-- ---------------------------------------------------------------------------
-- Single tokens
-- ---------------------------------------------------------------------------

instance (a : α) : Agree n taken (pure a) (pure a) :=
  .of_size_le fun h => by cases h; exact Nat.le_refl _

instance : Takes (failure : Parser α) := ⟨nofun⟩

instance (found : Option α) : Agree n taken (liftM found : Parser α) (liftM found) :=
  .of_size_le fun h => by
    cases found with
    | none => cases h
    | some found =>
      cases h
      exact Nat.le_refl _

instance (build : α → β) [Agree n taken p p'] : Agree n taken (build <$> p) (build <$> p') := by
  rw [map_eq_pure_bind, map_eq_pure_bind]
  infer_instance

instance : Agree n taken (get : Parser Cursor) get :=
  .of_size_le fun h => by cases h; exact Nat.le_refl _

theorem Agree.modify {change : Cursor → Cursor}
    (h : ∀ cursor, (change cursor).size ≤ cursor.size) :
    Agree n taken (modify change : Parser Unit) (modify change) :=
  .of_size_le fun hr => by cases hr; exact h _

instance : Agree n taken (replace count trees) (replace count trees) :=
  .modify fun _ => TokenTree.listSize_drop_le ..

instance : Agree n taken (writeOut before trees) (writeOut before trees) :=
  .modify fun _ => Nat.le_refl _

instance : Agree n taken (parenthesize before) (parenthesize before) :=
  .modify fun _ => Nat.le_refl _

instance : Agree n taken rest rest := by unfold rest; infer_instance

instance : Agree n taken isEmpty isEmpty := by unfold isEmpty; infer_instance

instance : Agree n taken (ahead test) (ahead test) := by unfold ahead; infer_instance

instance : Agree n taken (require c) (require c) := by unfold require; infer_instance

instance : Agree n taken position position := by
  unfold position
  exact .andThen fun trees => by split <;> infer_instance

instance : Agree n taken (keepSource before) (keepSource before) := by
  unfold keepSource
  infer_instance

instance : Takes token := ⟨by
  intro before tree after h
  unfold token at h
  split at h
  · next hr =>
    cases h
    have htree := tree.size_pos
    simp only [Cursor.size, hr, TokenTree.listSize]
    omega
  · cases h⟩

theorem mark_eq_some (h : mark text before = some (result, after)) :
    Ahead.mark text before.rest = true ∧ after.rest = before.rest.drop text.length := by
  have hmark : mark text before = (require (Ahead.mark text before.rest) >>= fun _ =>
      position >>= fun start => replace text.length (joined start text.toList)) before := rfl
  have hposition : ∀ cursor, ∃ start, position cursor = some (start, cursor) := by
    rintro ⟨_ | _, _⟩ <;> exact ⟨_, rfl⟩
  obtain ⟨start, hstart⟩ := hposition before
  cases hm : Ahead.mark text before.rest with
  | false =>
    rw [hmark, hm] at h
    cases h
  | true =>
    rw [hmark, hm] at h
    obtain ⟨_, _, ⟨⟩, h⟩ := bind_eq_some.mp h
    obtain ⟨_, _, hp, h⟩ := bind_eq_some.mp h
    cases hstart.symm.trans hp
    cases h
    exact ⟨rfl, rfl⟩

instance : Takes (mark text) := ⟨by
  intro before result after h
  obtain ⟨hm, ha⟩ := mark_eq_some h
  obtain ⟨ht, hr⟩ := Ahead.ne_nil_of_marks hm
  have hl : 0 < text.length := by
    rw [← String.length_toList]
    exact List.length_pos_iff.mpr ht
  rw [Cursor.size, ha]
  exact TokenTree.listSize_drop_lt hl hr⟩

instance : Takes (word text) := by unfold word; infer_instance

instance : Takes anyWord := by
  unfold anyWord
  exact .andKeep fun tree n => by split <;> infer_instance

instance : Takes name := by unfold name; infer_instance

instance : Takes lifetime := by unfold lifetime; infer_instance

instance : Takes anyGroup := by
  unfold anyGroup
  exact .andKeep fun tree n => by split <;> infer_instance

instance : Agree n taken literal literal := by
  unfold literal
  exact .andThen fun trees => by split <;> infer_instance

theorem takesIf [hp : Takes p] : TakesIf do
    if ← ahead test then
      let _ ← p
      return true
    else return false where
  size_le h := size_le_of_agree inferInstance h
  size_lt h := by
    obtain ⟨found, between, hf, h⟩ := bind_eq_some.mp h
    cases found with
    | false => cases h
    | true =>
      obtain ⟨_, _, ha, ⟨⟩⟩ := bind_eq_some.mp h
      exact Nat.lt_of_lt_of_le (hp.size_lt ha) (size_le_of_agree inferInstance hf)

instance : TakesIf (mark? text) := takesIf

instance : TakesIf (word? text) := takesIf

instance : TakesIf lifetime? := takesIf

-- ---------------------------------------------------------------------------
-- Groups, and what is written out
-- ---------------------------------------------------------------------------

instance (delimiter : Delimiter) (inner : Parser α) : Takes (delimited delimiter inner) := ⟨by
  intro before result after h
  unfold delimited at h
  split at h
  · next found trees start rest hr =>
    split at h
    · obtain ⟨⟨value, left, taken⟩, -, h⟩ := Option.bind_eq_some_iff.mp h
      dsimp only at h
      split at h
      · cases h
        simp only [Cursor.size, hr, TokenTree.listSize, TokenTree.size]
        omega
      · cases h
    · cases h
  · cases h⟩

instance (delimiter : Delimiter) [h : Agree n true p p'] :
    Agree n taken (delimited delimiter p) (delimited delimiter p') := by
  refine ⟨fun size hs before hb => ⟨?_, fun result after hr => ?_⟩⟩
  · unfold delimited
    split
    · next found trees start rest hr =>
      have hlt : (⟨trees, []⟩ : Cursor).size < before.size := by
        simp only [Cursor.size, hr, TokenTree.listSize, TokenTree.size]
        omega
      rw [(h.sameBehind hs hb hlt).1]
    · rfl
  · have hlt := Takes.size_lt hr
    omega

instance [h : Agree n taken p p'] : Agree n taken (written p) (written p') := by
  refine ⟨fun size hs before hb => ?_⟩
  obtain ⟨heq, hsize⟩ := h.same size hs ⟨before.rest, []⟩ hb
  refine ⟨?_, fun result after hr => ?_⟩
  · unfold written
    rw [heq]
  · obtain ⟨⟨value, between⟩, hv, h⟩ := Option.bind_eq_some_iff.mp hr
    cases h
    exact hsize value between hv

instance [Agree n taken p p'] : Agree n taken (verbatim p) (verbatim p') := by
  unfold verbatim
  infer_instance

instance {q q' : Parser (Option α)} [Agree n taken q q'] (other : α) :
    Agree n taken (elseSource before other q) (elseSource before other q') := by
  unfold elseSource
  exact .andThen fun found => by split <;> infer_instance

instance [h : Agree n taken p p'] : Agree n taken (lookAhead p) (lookAhead p') := by
  refine ⟨fun size hs before hb => ?_⟩
  obtain ⟨heq, -⟩ := h.same size hs before hb
  refine ⟨?_, fun result after hr => ?_⟩
  · unfold lookAhead
    rw [heq]
  · cases hr
    exact hb

-- ---------------------------------------------------------------------------
-- Repetition
-- ---------------------------------------------------------------------------

instance [Agree n taken p p'] (budget : Nat) (more : List TokenTree → Bool) :
    Agree n taken (repeatUpTo budget more p) (repeatUpTo budget more p') := by
  induction budget with
  | zero => exact inferInstanceAs (Agree n taken (pure []) (pure []))
  | succ budget ih =>
    unfold repeatUpTo
    infer_instance

instance [Agree n taken p p'] (more : List TokenTree → Bool) :
    Agree n taken (repeatWhile more p) (repeatWhile more p') := by
  unfold repeatWhile
  infer_instance

instance [Agree n true p p'] (budget : Nat) (separator : String)
    (stop : List TokenTree → Bool) :
    Agree n true (separatedUpTo budget separator stop p)
      (separatedUpTo budget separator stop p') := by
  induction budget with
  | zero => exact inferInstanceAs (Agree n true failure failure)
  | succ budget ih =>
    unfold separatedUpTo
    infer_instance

instance [Agree n true p p'] (separator : String) (stop : List TokenTree → Bool) :
    Agree n true (separated separator stop p) (separated separator stop p') := by
  unfold separated
  infer_instance

instance [Agree n true p p'] : Agree n true (commaList p) (commaList p') := by
  unfold commaList
  infer_instance

theorem Agree.readAll_eq (h : Agree n true p p') {trees : List TokenTree}
    (hn : TokenTree.listSize trees < n) : readAll p trees = readAll p' trees := by
  have heq : p ⟨trees, []⟩ = p' ⟨trees, []⟩ := (h.same _ (.inl hn) ⟨trees, []⟩ (Nat.le_refl _)).1
  unfold readAll
  rw [heq]

end

end Parser

end EndpointInference.Syntax
