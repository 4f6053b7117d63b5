/-
  Lists given by a text.

  A setting that is a list is read off a text, which is cut at a separator; blanks around an item
  count for nothing, nor does a piece without an item.  Reading a list is the inverse of writing
  one.

  * `Text.IsItem`: a text that can be an item between separators;
  * `Text.Enumerates`: pieces list certain items, with blanks and blank pieces anywhere;
  * `Text.pieces_joinWith`: pieces without the separator are joined and cut again;
  * `Text.items_joinWith`: and what they list is read, all of it in order;
  * `Text.isItem_of_mem_items`: nothing but items is read off a text;
  * `Config.listParameter_inverts_joining`: so it is for a setting that a variable gives.
-/
import Mathlib.Tactic
import Rendezvous.Proofs.Settings
import Rendezvous.Proofs.Wire

namespace Rendezvous

namespace Text

/-! ## Cutting and joining -/

theorem joinWith_eq_intercalate (separator : Text) (pieces : List Text) :
    joinWith separator pieces = separator.intercalate pieces := by
  induction pieces with
  | nil => rfl
  | cons piece rest ih =>
    cases rest with
    | nil => simp [joinWith]
    | cons next rest => rw [joinWith, ih, List.intercalate_cons_cons]; simp

variable {mark : CodePoint}

/-- A separator of one code point cuts where it stands, as the library's function does. -/
theorem pieces_eq_splitOn (mark : CodePoint) (t : Text) : pieces [mark] t = t.splitOn mark := by
  rw [pieces]
  induction t with
  | nil => simp [piecesFrom]
  | cons c t ih =>
    rw [List.splitOn_eq_splitOnP, List.splitOnP_cons_eq_if_modifyHead, ← List.splitOn_eq_splitOnP,
      piecesFrom, List.length_singleton, ih]
    by_cases hc : c = mark
    · simp [startsWith, hc]
    · have hstart : startsWith [mark] (c :: t) = false := by
        show (mark == c && List.isPrefixOf [] t) = false
        simp [Ne.symm hc]
      rw [if_neg (by simp [hstart]), if_neg (by simpa using hc)]
      cases hsplit : t.splitOn mark with
      | nil => exact absurd hsplit (List.splitOn_ne_nil mark t)
      | cons piece rest => rfl

/-- Pieces without the separator are found again. -/
theorem pieces_joinWith {pieces : List Text} (hne : pieces ≠ [])
    (hpieces : ∀ piece ∈ pieces, mark ∉ piece) :
    Text.pieces [mark] (joinWith [mark] pieces) = pieces := by
  rw [pieces_eq_splitOn, joinWith_eq_intercalate, List.splitOn_intercalate mark hpieces hne]

/-- No piece holds the separator. -/
theorem not_mem_of_mem_pieces {t piece : Text} (h : piece ∈ pieces [mark] t) : mark ∉ piece := by
  rw [pieces_eq_splitOn] at h
  induction t generalizing piece with
  | nil => simp_all
  | cons c t ih =>
    rw [List.splitOn_eq_splitOnP, List.splitOnP_cons_eq_if_modifyHead,
      ← List.splitOn_eq_splitOnP] at h
    split_ifs at h with hc
    · rcases List.mem_cons.1 h with rfl | hrest
      · exact List.not_mem_nil
      · exact ih hrest
    · cases hsplit : t.splitOn mark with
      | nil => exact absurd hsplit (List.splitOn_ne_nil mark t)
      | cons first rest =>
        rw [hsplit] at h ih
        rcases List.mem_cons.1 h with rfl | hrest
        · intro hmark
          rcases List.mem_cons.1 hmark with rfl | hfirst
          · exact hc (by simp)
          · exact ih (List.mem_cons_self ..) hfirst
        · exact ih (List.mem_cons_of_mem _ hrest)

/-! ## Items -/

/-- A text that can be an item: there is something to it, no blanks stand around it and the
    separator is not in it. -/
structure IsItem (mark : CodePoint) (item : Text) : Prop where
  ne_nil : item ≠ []
  stripped : item.strip = item
  unmarked : mark ∉ item

/-- Nothing but blanks. -/
def Blanks (t : Text) : Prop := ∀ c ∈ t, c.isBlank = true

/-- Pieces that list items: each item stands in a piece of its own, with any blanks around it, and
    there may be empty and blank pieces anywhere. -/
inductive Enumerates : List Text → List Text → Prop
  | done : Enumerates [] []
  | blank {piece : Text} {pieces items : List Text} (hpiece : piece.Blanks)
      (h : Enumerates pieces items) : Enumerates (piece :: pieces) items
  | item {before item after : Text} {pieces items : List Text} (hbefore : before.Blanks)
      (hafter : after.Blanks) (h : Enumerates pieces items) :
      Enumerates ((before ++ item ++ after) :: pieces) (item :: items)

theorem strip_of_blanks {t : Text} (h : t.Blanks) : t.strip = [] := by
  have hstrip : (t ++ [] ++ []).strip = strip [] :=
    strip_around h (fun _ hc => absurd hc List.not_mem_nil) []
  rw [List.append_nil, List.append_nil] at hstrip
  exact hstrip

theorem not_mem_of_blanks {t : Text} (hmark : mark.isBlank = false) (h : t.Blanks) : mark ∉ t := by
  intro hmem
  rw [h mark hmem] at hmark
  cases hmark

/-- A separator that is no blank stands nowhere in the pieces that list items. -/
theorem Enumerates.unmarked {pieces items : List Text} (hmark : mark.isBlank = false)
    (h : Enumerates pieces items) (hitems : ∀ item ∈ items, IsItem mark item) :
    ∀ piece ∈ pieces, mark ∉ piece := by
  induction h with
  | done => exact fun _ h => absurd h List.not_mem_nil
  | blank hpiece _ ih =>
    rw [List.forall_mem_cons]
    exact ⟨not_mem_of_blanks hmark hpiece, ih hitems⟩
  | item hbefore hafter _ ih =>
    obtain ⟨hitem, hitems⟩ := List.forall_mem_cons.1 hitems
    rw [List.forall_mem_cons]
    refine ⟨?_, ih hitems⟩
    simp only [List.mem_append, not_or]
    exact ⟨⟨not_mem_of_blanks hmark hbefore, hitem.unmarked⟩, not_mem_of_blanks hmark hafter⟩

/-- Stripping the pieces and leaving out what is empty then gives the items. -/
theorem Enumerates.stripped {pieces items : List Text} (h : Enumerates pieces items)
    (hitems : ∀ item ∈ items, IsItem mark item) :
    (pieces.map strip).filter (! ·.isEmpty) = items := by
  induction h with
  | done => rfl
  | blank hpiece _ ih =>
    rw [List.map_cons, strip_of_blanks hpiece]
    exact ih hitems
  | item hbefore hafter _ ih =>
    obtain ⟨hitem, hitems⟩ := List.forall_mem_cons.1 hitems
    rw [List.map_cons, strip_around hbefore hafter, hitem.stripped, List.filter_cons_of_pos,
      ih hitems]
    simpa using hitem.ne_nil

/-- The items that the pieces of a text list are read off it. -/
theorem items_joinWith {pieces items : List Text} (hmark : mark.isBlank = false)
    (h : Enumerates pieces items) (hitems : ∀ item ∈ items, IsItem mark item) :
    Text.items [mark] (joinWith [mark] pieces) = items := by
  rw [Text.items]
  by_cases hne : pieces = []
  · subst hne
    cases h
    rfl
  · rw [pieces_joinWith hne (h.unmarked hmark hitems), h.stripped hitems]

theorem mem_of_mem_strip {t : Text} {c : CodePoint} (h : c ∈ t.strip) : c ∈ t := by
  obtain ⟨before, after, ht, -, -⟩ := t.exists_around
  rw [ht]
  simp [h]

/-- What is read off a text is an item. -/
theorem isItem_of_mem_items {t item : Text} (h : item ∈ Text.items [mark] t) :
    IsItem mark item := by
  obtain ⟨hstrip, hne⟩ := List.mem_filter.1 h
  obtain ⟨piece, hpiece, rfl⟩ := List.mem_map.1 hstrip
  constructor
  · simpa using hne
  · exact strip_strip piece
  · exact fun hmem => not_mem_of_mem_pieces hpiece (mem_of_mem_strip hmem)

end Text

/-! ## Settings -/

namespace Config
variable (c : Config) (s : Surroundings) (key : Text) (state : LookupState) (default : Value)

/-- A setting that a variable gives is read as the items of its text. -/
theorem listParameter_run_of_set {mark : CodePoint} {t : Text}
    (hset : settingOf s.env key = .ok (some t)) :
    ((c.listParameter s key default (.str [mark])).run state).1 =
      .ok (.arr ((Text.items [mark] t).map .str)) := by
  simp only [listParameter, parameter, hset, itemsOf, Lookup.run_bind, Lookup.run_lift,
    Lookup.run_pure]

/-- **Reading a list inverts joining**, for a setting that a variable gives and a separator of one
    code point that is no blank.  Items joined with blanks around them and blank pieces among them
    are read just as they are, in order, and nothing but items is read off any text. -/
theorem listParameter_inverts_joining {mark : CodePoint} (hmark : mark.isBlank = false) :
    (∀ pieces items : List Text, Text.Enumerates pieces items →
      (∀ item ∈ items, Text.IsItem mark item) →
      settingOf s.env key = .ok (some (Text.joinWith [mark] pieces)) →
      ((c.listParameter s key default (.str [mark])).run state).1 =
        .ok (.arr (items.map .str))) ∧
    ∀ t, settingOf s.env key = .ok (some t) →
      ∃ items : List Text, ((c.listParameter s key default (.str [mark])).run state).1 =
        .ok (.arr (items.map .str)) ∧ ∀ item ∈ items, Text.IsItem mark item := by
  constructor
  · intro pieces items hlists hitems hset
    rw [c.listParameter_run_of_set s key state default hset,
      Text.items_joinWith hmark hlists hitems]
  · intro t hset
    exact ⟨_, c.listParameter_run_of_set s key state default hset,
      fun _ => Text.isItem_of_mem_items⟩

/-- The items of a variable with blanks and an empty piece in it. -/
theorem listParameter_flags :
    let c := Config.ofEnvironment 0 []
    let s : Surroundings := ⟨[("REGISTRY_SERVICE_FLAGS", "a, b,,c\t")], fun _ => .bare, false⟩
    CodePoint.isBlank ',' = false ∧
      ((c.listParameter s "flags" .null (.str ",")).run .initial).1 =
        .ok (.arr [.str "a", .str "b", .str "c"]) := by
  intro c s
  have hblank : CodePoint.isBlank ',' = false := by decide
  have hitem {letter : CodePoint} (hstrip : Text.strip [letter] = [letter])
      (hletter : letter ≠ ',') : Text.IsItem ',' [letter] :=
    ⟨List.cons_ne_nil _ _, hstrip, by simpa using hletter.symm⟩
  have hnone : Text.Blanks [] := fun _ h => absurd h List.not_mem_nil
  have hspace : Text.Blanks " " := List.forall_mem_singleton.2 rfl
  have htab : Text.Blanks "\t" := List.forall_mem_singleton.2 rfl
  have hlists : Text.Enumerates
      [[] ++ Text.ofString "a" ++ [], Text.ofString " " ++ Text.ofString "b" ++ [], [],
        [] ++ Text.ofString "c" ++ Text.ofString "\t"] ["a", "b", "c"] :=
    .item hnone hnone (.item hspace hnone (.blank hnone (.item hnone htab .done)))
  refine ⟨hblank, (c.listParameter_inverts_joining s "flags" .initial .null hblank).1 _ _ hlists
    ?_ rfl⟩
  simp only [List.forall_mem_cons]
  exact ⟨hitem rfl (by decide), hitem rfl (by decide), hitem rfl (by decide),
    fun _ h => absurd h List.not_mem_nil⟩

end Config

end Rendezvous
