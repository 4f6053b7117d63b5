/-
  JSON values, written and read back.

  A value that comes out of JSON text holds whole texts only, no bytes, no number that could not be
  read, and no two fields of the same name.  Every such value is read back exactly as it was
  written, and what is written of it is one line of printable ASCII.

  * `Value.IsJson`: values that JSON text can hold, and how deep they are;
  * `Token.scanFrom_word`: a word ends where punctuation follows it;
  * `readsBack_of_isJson`: a value is read where one has to start, whatever is open and whatever
    follows it; `parse_print`: so it is read back from its own text;
  * `isPrintable_print`: the text of a value is printable ASCII.
-/
import Rendezvous.Proofs.Numerals
import Rendezvous.Proofs.Reading

namespace Rendezvous

open Json Json.Token

/-! ## Values -/

/-- A value that JSON text can hold, with no more than so many lists and objects inside each
    other. -/
inductive Value.IsJson : (depth : Nat) → Value → Prop
  | null {depth : Nat} : IsJson depth .null
  | bool {depth : Nat} (b : Bool) : IsJson depth (.bool b)
  | int {depth : Nat} {n : Int} : Integer.isWritable n = true → IsJson depth (.int n)
  | float {depth : Nat} {x : Binary64} : x.IsRepresentable → IsJson depth (.float x)
  | str {depth : Nat} {t : Text} : t.IsWhole → IsJson depth (.str t)
  | arr {depth : Nat} {items : List Value} :
      (∀ x ∈ items, IsJson depth x) → IsJson (depth + 1) (.arr items)
  | obj {depth : Nat} {fields : Object} : (Object.keys fields).Nodup →
      (∀ field ∈ fields, field.1.IsWhole) → (∀ field ∈ fields, IsJson depth field.2) →
      IsJson (depth + 1) (.obj fields)

theorem Value.IsJson.mono {depth depth' : Nat} {v : Value} (h : v.IsJson depth)
    (hle : depth ≤ depth') : v.IsJson depth' := by
  induction h generalizing depth' with
  | null => exact .null
  | bool b => exact .bool b
  | int h => exact .int h
  | float h => exact .float h
  | str h => exact .str h
  | arr _ ih =>
    obtain ⟨deeper, rfl⟩ : ∃ deeper, depth' = deeper + 1 := ⟨depth' - 1, by omega⟩
    exact .arr fun x hx => ih x hx (by omega)
  | obj hkeys hnames _ ih =>
    obtain ⟨deeper, rfl⟩ : ∃ deeper, depth' = deeper + 1 := ⟨depth' - 1, by omega⟩
    exact .obj hkeys hnames fun field hfield => ih field hfield (by omega)

namespace Object

/-- A field of a new name goes to the end. -/
theorem put_of_not_mem {key : Text} {v : Value} {o : Object} (h : key ∉ Object.keys o) :
    o.put key v = o ++ [(key, v)] := by
  induction o with
  | nil => rfl
  | cons entry o ih =>
    obtain ⟨hne, hrest⟩ : key ≠ entry.1 ∧ key ∉ Object.keys o := by simpa [Object.keys] using h
    rw [Object.put, if_neg (Ne.symm hne), ih hrest]
    rfl

/-- Where all names are different, a field goes to the end of those before it. -/
theorem put_of_nodup {o extra : Object} {entry : Text × Value}
    (h : (Object.keys (o ++ entry :: extra)).Nodup) : o.put entry.1 entry.2 = o ++ [entry] := by
  have hkeys : (Object.keys o ++ entry.1 :: Object.keys extra).Nodup := by
    simpa [Object.keys] using h
  exact put_of_not_mem fun hmem => (List.nodup_append.1 hkeys).2.2 _ hmem _ List.mem_cons_self rfl

/-- Where all names are different, the fields of an object go to the end of those before them. -/
theorem merge_of_nodup {o extra : Object} (h : (Object.keys (o ++ extra)).Nodup) :
    o.merge extra = o ++ extra := by
  induction extra generalizing o with
  | nil => simp [merge]
  | cons entry extra ih =>
    have hstep : o.merge (entry :: extra) = (o.put entry.1 entry.2).merge extra := rfl
    have hassoc : o ++ [entry] ++ extra = o ++ entry :: extra := by simp
    rw [hstep, put_of_nodup h, ih (hassoc ▸ h), hassoc]

end Object

namespace Json

/-! ## Words -/

namespace Token

/-- A word ends before this text: it is empty, or starts with a mark of punctuation. -/
def Stops (rest : Text) : Prop := ∀ c ∈ rest.head?, (mark? c).isSome = true

theorem stops_nil : Stops [] := fun _ h => by cases h

theorem stops_cons {c : CodePoint} (h : (mark? c).isSome = true) (rest : Text) :
    Stops (c :: rest) := by
  intro d hd
  obtain rfl := Option.some.inj hd
  exact h

theorem apart_of_isWordPoint {c : CodePoint} (h : isWordPoint c = true) :
    isGap c = false ∧ c ≠ CodePoint.quotationMark ∧ mark? c = none := by
  simp only [isWordPoint, Bool.and_eq_true, Bool.not_eq_true', Option.isNone_iff_eq_none,
    decide_eq_true_eq] at h
  exact ⟨h.1.1.2, h.1.2, h.2⟩

/-- A word goes on up to the punctuation that follows it. -/
theorem scanFrom_word (rev word : Text) (hword : ∀ c ∈ word, isWordPoint c = true) {rest : Text}
    (hrest : Stops rest) : scanFrom (.word rev) (word ++ rest) =
      ofWord (rev.reverse ++ word) ++ scanFrom .gap rest := by
  induction word generalizing rev with
  | nil =>
    cases rest with
    | nil => simp [scanFrom]
    | cons c rest =>
      obtain ⟨token, htoken⟩ := Option.isSome_iff_exists.1 (hrest c rfl)
      rw [List.nil_append, List.append_nil, scanFrom, scanFrom, htoken]
      split
      · rfl
      · split <;> rfl
  | cons c word ih =>
    obtain ⟨hc, hword⟩ := List.forall_mem_cons.1 hword
    obtain ⟨hgap, hquote, hmark⟩ := apart_of_isWordPoint hc
    rw [List.cons_append, scanFrom, hgap, if_neg Bool.false_ne_true, if_neg hquote, hmark]
    dsimp only
    rw [ih (c :: rev) hword]
    simp

/-- A word is scanned by itself. -/
theorem scanFrom_wordOf {word : Text} {v : Value} (h : IsWordOf word v) {rest : Text}
    (hrest : Stops rest) :
    scanFrom .gap (word ++ rest) = ofWord word ++ scanFrom .gap rest := by
  obtain ⟨c, word, rfl⟩ := List.exists_cons_of_ne_nil h.some_point
  obtain ⟨hc, hword⟩ := List.forall_mem_cons.1 h.points
  obtain ⟨hgap, hquote, hmark⟩ := apart_of_isWordPoint hc
  rw [List.cons_append, scanFrom, hgap, if_neg Bool.false_ne_true, if_neg hquote, hmark]
  exact scanFrom_word [c] word hword hrest

end Token

/-! ## Reading back -/

/-- Any token but the end of a list is taken as the start of a value. -/
def Awaits (expected : Expectation) (stack : List Frame) : Prop :=
  ∀ token, token ≠ .closeList → step expected stack token = startValue stack token

/-- A value is read where one has to start, whatever is open, and up to what follows it. -/
def ReadsBack (depth : Nat) (v : Value) : Prop :=
  ∀ (expected : Expectation) (stack : List Frame) (rest : Text), Awaits expected stack →
    stack.length + depth ≤ maxDepth → Stops rest →
      run expected stack (scanFrom .gap (print v ++ rest)) =
        run (.next v) stack (scanFrom .gap rest)

theorem awaits_value (stack : List Frame) : Awaits .value stack := fun _ _ => rfl

theorem awaits_item (stack : List Frame) : Awaits .itemOrClose (.list [] :: stack) := by
  intro token hne
  cases token with
  | closeList => exact absurd rfl hne
  | _ => rfl

theorem readsBack_word {depth : Nat} {v : Value} (h : IsWordOf (print v) v) :
    ReadsBack depth v := by
  intro expected stack rest hawaits _ hrest
  obtain ⟨token, htoken, hstart⟩ := h.read
  have hne : token ≠ .closeList := by
    rintro rfl
    cases hstart []
  rw [scanFrom_wordOf h hrest, htoken, List.singleton_append,
    run_of_step ((hawaits token hne).trans (hstart stack))]

theorem readsBack_text {depth : Nat} {t : Text} (h : t.IsWhole) : ReadsBack depth (.str t) := by
  intro expected stack rest hawaits _ _
  have hstart : step expected stack (.text t) = .ok (.next (.str t), stack) :=
    hawaits (.text t) nofun
  rw [print, scanFrom_printText, Text.joined_of_isWhole h, run_of_step hstart]

theorem stops_comma (t : Text) : Stops (Text.ofString ", " ++ t) := stops_cons rfl _

theorem scanFrom_comma (t : Text) : scanFrom .gap (Text.ofString ", " ++ t) =
    .comma :: scanFrom .gap t := rfl

theorem scanFrom_colon (t : Text) : scanFrom .gap (Text.ofString ": " ++ t) =
    .colon :: scanFrom .gap t := rfl

theorem scanFrom_closeList (t : Text) : scanFrom .gap (Text.ofString "]" ++ t) =
    .closeList :: scanFrom .gap t := rfl

theorem scanFrom_closeObject (t : Text) : scanFrom .gap (CodePoint.ofNat 0x7d :: t) =
    .closeObject :: scanFrom .gap t := rfl

/-- The items of a list are read one after the other, up to its end. -/
theorem run_items {depth : Nat} {x : Value} {items : List Value}
    (h : ∀ y ∈ x :: items, ReadsBack depth y) {expected : Expectation} {rev : List Value}
    {stack : List Frame} (hawaits : Awaits expected (.list rev :: stack))
    (room : stack.length + (depth + 1) ≤ maxDepth) (rest : Text) :
    run expected (.list rev :: stack)
        (scanFrom .gap (Text.joinWith ", " (printItems (x :: items)) ++ (Text.ofString "]" ++ rest))) =
      run (.next (.arr (rev.reverse ++ x :: items))) stack (scanFrom .gap rest) := by
  have hroom : (Frame.list rev :: stack).length + depth ≤ maxDepth := by
    rw [List.length_cons]
    omega
  induction items generalizing x expected rev with
  | nil =>
    have hread := h x List.mem_cons_self expected (.list rev :: stack) (Text.ofString "]" ++ rest)
      hawaits hroom (stops_cons rfl _)
    have hclose : step (.next x) (.list rev :: stack) .closeList =
        .ok (.next (.arr (x :: rev).reverse), stack) := rfl
    rw [printItems, printItems, Text.joinWith, hread, scanFrom_closeList, run_of_step hclose,
      List.reverse_cons]
  | cons y items ih =>
    obtain ⟨hx, hitems⟩ := List.forall_mem_cons.1 h
    have hread := hx expected (.list rev :: stack)
      (Text.ofString ", " ++ (Text.joinWith ", " (printItems (y :: items)) ++
        (Text.ofString "]" ++ rest))) hawaits hroom (stops_comma _)
    have hcomma : step (.next x) (.list rev :: stack) .comma =
        .ok (.value, .list (x :: rev) :: stack) := rfl
    have hnext := ih hitems (awaits_value (.list (x :: rev) :: stack)) hroom
    have hjoin : Text.joinWith ", " (printItems (x :: y :: items)) =
        print x ++ Text.ofString ", " ++ Text.joinWith ", " (printItems (y :: items)) := rfl
    rw [hjoin, List.append_assoc, List.append_assoc, hread, scanFrom_comma, run_of_step hcomma,
      hnext]
    simp

/-- The fields of an object are read one after the other, up to its end. -/
theorem run_fields {depth : Nat} {field : Text × Value} {fields before : Object}
    (h : ∀ f ∈ field :: fields, f.1.IsWhole ∧ ReadsBack depth f.2)
    (hkeys : (Object.keys (before ++ field :: fields)).Nodup) {expected : Expectation}
    {stack : List Frame}
    (here : ∀ key, step expected stack (.text key) = .ok (.colon before key, stack))
    (room : stack.length + (depth + 1) ≤ maxDepth) (rest : Text) :
    run expected stack (scanFrom .gap
        (Text.joinWith ", " (printFields (field :: fields)) ++ (CodePoint.ofNat 0x7d :: rest))) =
      run (.next (.obj (before ++ field :: fields))) stack (scanFrom .gap rest) := by
  have hvalue (f : Text × Value) (before : Object) (hname : f.1.IsWhole)
      (hread : ReadsBack depth f.2) {expected : Expectation}
      (here : ∀ key, step expected stack (.text key) = .ok (.colon before key, stack))
      {rest : Text} (hrest : Stops rest) :
      run expected stack (scanFrom .gap (printText f.1 ++ Text.ofString ": " ++ print f.2 ++ rest)) =
        run (.next f.2) (.field before f.1 :: stack) (scanFrom .gap rest) := by
    have hcolon : step (.colon before f.1) stack .colon =
        .ok (.value, .field before f.1 :: stack) := rfl
    rw [List.append_assoc, List.append_assoc, scanFrom_printText, Text.joined_of_isWhole hname,
      run_of_step (here f.1), scanFrom_colon, run_of_step hcolon]
    refine hread .value _ rest (awaits_value _) ?_ hrest
    rw [List.length_cons]
    omega
  -- the induction is on the fields still to be read; `before` holds those that were read already
  induction fields generalizing field before expected with
  | nil =>
    obtain ⟨hname, hread⟩ := h field List.mem_cons_self
    have hclose : step (.next field.2) (.field before field.1 :: stack) .closeObject =
        .ok (.next (.obj (Object.put field.1 field.2 before)), stack) := rfl
    rw [printFields, printFields, Text.joinWith, hvalue field before hname hread here
      (stops_cons rfl _), scanFrom_closeObject, run_of_step hclose, Object.put_of_nodup hkeys]
  | cons next fields ih =>
    obtain ⟨⟨hname, hread⟩, hfields⟩ := List.forall_mem_cons.1 h
    have hcomma : step (.next field.2) (.field before field.1 :: stack) .comma =
        .ok (.key (Object.put field.1 field.2 before), stack) := rfl
    have hassoc : before ++ [field] ++ next :: fields = before ++ field :: next :: fields := by simp
    have hthere (key : Text) : step (.key (before ++ [field])) stack (.text key) =
        .ok (.colon (before ++ [field]) key, stack) := rfl
    have hnext := ih hfields (hassoc ▸ hkeys) hthere
    have hjoin : Text.joinWith ", " (printFields (field :: next :: fields)) =
        printText field.1 ++ Text.ofString ": " ++ print field.2 ++ Text.ofString ", " ++
          Text.joinWith ", " (printFields (next :: fields)) := rfl
    rw [hjoin, List.append_assoc, List.append_assoc, hvalue field before hname hread here
      (stops_comma _), scanFrom_comma, run_of_step hcomma, Object.put_of_nodup hkeys, hnext,
      hassoc]

/-- Every value that JSON text can hold is read back, as far as so much may be open. -/
theorem readsBack_of_isJson {depth : Nat} {v : Value} (h : v.IsJson depth) :
    ReadsBack depth v := by
  induction h with
  | null => exact readsBack_word (isWordOf_constant rfl (List.cons_ne_nil _ _) rfl)
  | bool b =>
    cases b <;> exact readsBack_word (isWordOf_constant rfl (List.cons_ne_nil _ _) rfl)
  | int h => exact readsBack_word (isWordOf_ofInt h)
  | float h => exact readsBack_word (isWordOf_printBinary h)
  | str h => exact readsBack_text h
  | @arr depth items _ ih =>
    intro expected stack rest hawaits room hrest
    have hopen : step expected stack .openList = .ok (.itemOrClose, .list [] :: stack) := by
      rw [hawaits .openList (by simp), startValue, if_pos (by omega)]
    have hscan (t : Text) : scanFrom .gap (('[' : CodePoint) :: t) = .openList :: scanFrom .gap t :=
      rfl
    rw [print, List.cons_append, List.cons_append, List.append_assoc, hscan, run_of_step hopen]
    cases items with
    | nil =>
      have hclose : step .itemOrClose (.list [] :: stack) .closeList =
          .ok (.next (.arr []), stack) := rfl
      rw [printItems, Text.joinWith, List.nil_append, scanFrom_closeList, run_of_step hclose]
    | cons x items => exact run_items ih (awaits_item stack) room rest
  | @obj depth fields hkeys hnames _ ih =>
    intro expected stack rest hawaits room hrest
    have hopen : step expected stack .openObject = .ok (.keyOrClose, stack) := by
      rw [hawaits .openObject (by simp), startValue, if_pos (by omega)]
    have hscan (t : Text) : scanFrom .gap (CodePoint.ofNat 0x7b :: t) =
      .openObject :: scanFrom .gap t := rfl
    rw [print, List.cons_append, List.cons_append, List.append_assoc, hscan, run_of_step hopen]
    cases fields with
    | nil =>
      have hclose : step .keyOrClose stack .closeObject = .ok (.next (.obj []), stack) := rfl
      have hscanClose : scanFrom .gap (Text.joinWith ", " (printFields []) ++
          ([CodePoint.ofNat 0x7d] ++ rest)) = .closeObject :: scanFrom .gap rest := rfl
      rw [hscanClose, run_of_step hclose]
    | cons field fields =>
      have here (key : Text) : step .keyOrClose stack (.text key) = .ok (.colon [] key, stack) := rfl
      exact run_fields (fun f hf => ⟨hnames f hf, ih f hf⟩) hkeys here room rest

/-- What is written of a value is read back as that value. -/
theorem parse_print {v : Value} (h : v.IsJson maxDepth) : parse (print v) = .ok v := by
  have hread := readsBack_of_isJson h .value [] [] (awaits_value []) (by simp) stops_nil
  rw [List.append_nil] at hread
  exact hread

end Json

/-! ## Printable ASCII -/

/-- A text is one line of printable ASCII. -/
def Text.IsPrintable (t : Text) : Prop := ∀ c ∈ t, 0x20 ≤ c.val ∧ c.val ≤ 0x7e

namespace Text.IsPrintable

theorem append {s t : Text} (hs : s.IsPrintable) (ht : t.IsPrintable) : (s ++ t).IsPrintable :=
  List.forall_mem_append.2 ⟨hs, ht⟩

theorem joinWith {separator : Text} (hs : separator.IsPrintable) {pieces : List Text}
    (h : ∀ piece ∈ pieces, piece.IsPrintable) : (Text.joinWith separator pieces).IsPrintable := by
  induction pieces with
  | nil => exact List.forall_mem_nil _
  | cons piece pieces ih =>
    obtain ⟨hpiece, hpieces⟩ := List.forall_mem_cons.1 h
    cases pieces with
    | nil => exact hpiece
    | cons next pieces => exact (hpiece.append hs).append (ih hpieces)

end Text.IsPrintable

namespace Json

open Text

theorem isPrintable_hexFixed (width n : Nat) : (hexFixed width n).IsPrintable := by
  have hdigit : ∀ d : Fin 16, 0x20 ≤ (CodePoint.hexDigit d.val).val ∧
      (CodePoint.hexDigit d.val).val ≤ 0x7e := by decide
  induction width generalizing n with
  | zero => exact List.forall_mem_nil _
  | succ width ih =>
    exact (ih _).append (List.forall_mem_singleton.2 (hdigit ⟨n % 16, Nat.mod_lt n (by decide)⟩))

theorem isPrintable_pointEscape (c : CodePoint) : (pointEscape c).IsPrintable := by
  have hunit (n : Nat) : (unitEscape n).IsPrintable :=
    IsPrintable.append (List.forall_mem_cons.2 ⟨by decide, List.forall_mem_singleton.2 (by decide)⟩)
      (isPrintable_hexFixed 4 n)
  unfold pointEscape
  split
  · exact hunit _
  · exact (hunit _).append (hunit _)

theorem isPrintable_printPoint (c : CodePoint) : (printPoint c).IsPrintable := by
  have hpair (d : CodePoint) (hd : 0x20 ≤ d.val ∧ d.val ≤ 0x7e) :
      IsPrintable [CodePoint.backslash, d] :=
    List.forall_mem_cons.2 ⟨by decide, List.forall_mem_singleton.2 hd⟩
  unfold printPoint
  split
  next h =>
    refine hpair c ?_
    obtain rfl | rfl : c = CodePoint.quotationMark ∨ c = CodePoint.backslash := by simpa using h
    · decide
    · decide
  next =>
  split
  next => exact hpair 'n' (by decide)
  next =>
  split
  next => exact hpair 'r' (by decide)
  next =>
  split
  next => exact hpair 't' (by decide)
  next =>
  split
  next => exact hpair 'f' (by decide)
  next =>
  split
  next => exact hpair 'b' (by decide)
  next =>
  split
  next h => exact List.forall_mem_singleton.2 (by simpa using h)
  next => exact isPrintable_pointEscape c

theorem isPrintable_printText (t : Text) : (printText t).IsPrintable := by
  have hmark : IsPrintable [CodePoint.quotationMark] := List.forall_mem_singleton.2 (by decide)
  have hpoints : IsPrintable (t.flatMap printPoint) := by
    intro c hc
    obtain ⟨d, -, hd⟩ := List.mem_flatMap.1 hc
    exact isPrintable_printPoint d c hd
  exact (IsPrintable.append hmark hpoints).append hmark

theorem isPrintable_word {word : Text} {v : Value} (h : IsWordOf word v) : word.IsPrintable := by
  intro c hc
  have hpoint := h.points c hc
  simp only [isWordPoint, Bool.and_eq_true, decide_eq_true_eq] at hpoint
  exact hpoint.1.1.1

theorem printItems_eq (items : List Value) : printItems items = items.map print := by
  induction items with
  | nil => rfl
  | cons x items ih => rw [printItems, ih, List.map_cons]

theorem printFields_eq (fields : Object) : printFields fields =
    fields.map fun field => printText field.1 ++ Text.ofString ": " ++ print field.2 := by
  induction fields with
  | nil => rfl
  | cons field fields ih => rw [printFields, ih, List.map_cons]

/-- The text of a value is printable ASCII. -/
theorem isPrintable_print {depth : Nat} {v : Value} (h : v.IsJson depth) :
    (print v).IsPrintable := by
  have hcomma : IsPrintable ", " :=
    List.forall_mem_cons.2 ⟨by decide, List.forall_mem_singleton.2 (by decide)⟩
  have hcolon : IsPrintable ": " :=
    List.forall_mem_cons.2 ⟨by decide, List.forall_mem_singleton.2 (by decide)⟩
  have hmark (c : CodePoint) (hc : 0x20 ≤ c.val ∧ c.val ≤ 0x7e) : IsPrintable [c] :=
    List.forall_mem_singleton.2 hc
  induction h with
  | null => exact isPrintable_word (isWordOf_constant rfl (List.cons_ne_nil _ _) rfl)
  | bool b =>
    cases b <;> exact isPrintable_word (isWordOf_constant rfl (List.cons_ne_nil _ _) rfl)
  | int h => exact isPrintable_word (isWordOf_ofInt h)
  | float h => exact isPrintable_word (isWordOf_printBinary h)
  | str _ => exact isPrintable_printText _
  | @arr depth items _ ih =>
    have hitems : ∀ piece ∈ printItems items, piece.IsPrintable := by
      rw [printItems_eq]
      exact List.forall_mem_map.2 ih
    exact ((hmark '[' (by decide)).append (IsPrintable.joinWith hcomma hitems)).append
      (hmark ']' (by decide))
  | @obj depth fields _ _ _ ih =>
    have hfields : ∀ piece ∈ printFields fields, piece.IsPrintable := by
      rw [printFields_eq]
      exact List.forall_mem_map.2 fun field hfield =>
        ((isPrintable_printText _).append hcolon).append (ih field hfield)
    exact ((hmark _ (by decide)).append (IsPrintable.joinWith hcomma hfields)).append
      (hmark _ (by decide))

end Json

end Rendezvous
