import AndroidArt.Runtime.Transaction

/-!
# What aborting a transaction restores

A run of transactional writes from a heap `h₀` keeps an invariant (`Inv`): the object log and the
array log have saved, for each field and element they name, a conversion of its value in `h₀`,
and every other field and element still has that value; undoing the intern log from the current
intern table gives the table of `h₀`.

* `Inv.of_write`, `run_inv` — the step lemma and the run lemma.
* `abort_restores` — after any run, `Abort` gives back the intern table of `h₀`, each element
  the array log names as the round trip of its old bits through `uint64_t`, and each field it
  names, but `Object::class` and an array's length, as the getter of its first write's kind read
  it in `h₀`.
* `abort_restores_integral_element` — the round trip is exact for the integral component
  types.
* `abort_float_array_element` — it is not for `float`: the element is logged as an integer and
  restored as the float nearest that integer.
-/

set_option autoImplicit false

namespace Art

namespace Transaction

open UndoLog

/-- What the array log may hold for an element whose bits were `x`: its conversion to `uint64_t`
through an element type its array can be accessed as. -/
def SavedElement (h₀ : Heap) (key : Nat × Nat) (x value : Nat) : Prop :=
  ∃ access, (h₀.componentType key.1).accessibleAs access ∧ access.toUInt64 x = some value

/-- What the object log may hold for a field whose value was `x`: the value as the getter of the
logged kind reads it. -/
def SavedField (_ : Nat × Nat) (x : Nat) (fieldValue : FieldValue) : Prop :=
  fieldValue.value = fieldValue.kind.bits x

/-- The invariant of a run from `h₀` to `h` with the logs `t`. -/
structure Inv (h₀ h : Heap) (t : Transaction) : Prop where
  fields : Saved SavedField h₀.fields h.fields t.objectLogs
  elements : Saved (SavedElement h₀) h₀.elements h.elements t.arrayLogs
  componentType : h.componentType = h₀.componentType
  isArrayInstance : h.isArrayInstance = h₀.isArrayInstance
  interns : undoInternStringTableModifications h.internTable t.internStringLogs = some h₀.internTable

theorem inv_empty (h₀ : Heap) : Inv h₀ h₀ empty :=
  ⟨saved_nil _ _, saved_nil _ _, rfl, rfl, rfl⟩

section Interns

variable (table : InternTable) (s : String)

theorem undo_insertStrong :
    InternStringLog.undo { table with strongInterns := InternTable.Table.insert table.strongInterns s }
      ⟨s, .kStrongString, .kInsert⟩ = some table := by
  simp [InternStringLog.undo, InternTable.Table.remove, InternTable.Table.insert]

theorem undo_insertWeak :
    InternStringLog.undo { table with weakInterns := InternTable.Table.insert table.weakInterns s }
      ⟨s, .kWeakString, .kInsert⟩ = some table := by
  simp [InternStringLog.undo, InternTable.Table.remove, InternTable.Table.insert]

theorem undo_removeWeak {weak : Multiset String}
    (h : InternTable.Table.remove table.weakInterns s = some weak) :
    InternStringLog.undo { table with weakInterns := weak } ⟨s, .kWeakString, .kRemove⟩ =
      some table := by
  unfold InternTable.Table.remove at h
  split at h
  · cases h
    simp [InternStringLog.undo, InternTable.Table.insert, Multiset.cons_erase ‹s ∈ _›]
  · cases h

/-- Undoing a log that starts with the inverse of the last operation. -/
theorem undoInternStringTableModifications_cons {table table' : InternTable}
    {log : InternStringLog} {logs : List InternStringLog} (hlog : log.undo table' = some table) :
    undoInternStringTableModifications table' (log :: logs) =
      undoInternStringTableModifications table logs := by
  simp [undoInternStringTableModifications, List.foldlM_cons, hlog]

end Interns

variable {h₀ h : Heap} {t : Transaction}

theorem Inv.setField (hi : Inv h₀ h t) (kind : FieldValueKind) (obj offset value : Nat) :
    Inv h₀ (h.setField obj offset value)
      (t.recordWriteField kind obj offset (h.getField kind obj offset)) :=
  ⟨hi.fields.write (show SavedField (obj, offset) (h.fields (obj, offset))
      ⟨h.getField kind obj offset, kind⟩ from rfl) value,
    hi.elements, hi.componentType, hi.isArrayInstance, hi.interns⟩

theorem Inv.setArrayElement (hi : Inv h₀ h t) {array index : Nat} {access : PrimitiveType}
    (hacc : (h.componentType array).accessibleAs access) {old : Nat}
    (hold : access.toUInt64 (h.elements (array, index)) = some old) (value : Nat) :
    Inv h₀ { h with elements := Function.update h.elements (array, index) value }
      (t.recordWriteArray array index old) := by
  refine ⟨hi.fields, hi.elements.write ?_ value, hi.componentType, hi.isArrayInstance, hi.interns⟩
  rw [hi.componentType] at hacc
  exact ⟨access, hacc, hold⟩

theorem Inv.logInternedString (hi : Inv h₀ h t) {table : InternTable} {log : InternStringLog}
    (hlog : log.undo table = some h.internTable) (h' : Heap) (hfields : h'.fields = h.fields)
    (helements : h'.elements = h.elements) (hcomponent : h'.componentType = h.componentType)
    (harray : h'.isArrayInstance = h.isArrayInstance) (htable : h'.internTable = table) :
    Inv h₀ h' (t.logInternedString log) := by
  refine ⟨hfields ▸ hi.fields, helements ▸ hi.elements, hcomponent ▸ hi.componentType,
    harray ▸ hi.isArrayInstance, ?_⟩
  rw [htable]
  exact (undoInternStringTableModifications_cons hlog).trans hi.interns

/-- The step lemma. -/
theorem Inv.of_write (hi : Inv h₀ h t) {w : TransactionalWrite} {h' : Heap} {t' : Transaction}
    (hw : t.write h w = some (h', t')) : Inv h₀ h' t' := by
  cases w with
  | setField32 obj offset value =>
    cases hw
    exact hi.setField .k32Bits obj offset value.toNat
  | setField64 obj offset value =>
    cases hw
    exact hi.setField .k64Bits obj offset value.toNat
  | setFieldObject obj offset ref =>
    cases hw
    exact hi.setField .kReference obj offset ref
  | setArrayElement array index access value =>
    simp only [write] at hw
    split at hw
    · rename_i hacc
      split at hw
      · cases hw
      · rename_i old hold
        cases hw
        exact hi.setArrayElement hacc hold _
    · cases hw
  | insertStrong s =>
    cases hw
    exact hi.logInternedString (undo_insertStrong h.internTable s) _ rfl rfl rfl rfl rfl
  | insertWeak s =>
    cases hw
    exact hi.logInternedString (undo_insertWeak h.internTable s) _ rfl rfl rfl rfl rfl
  | removeWeak s =>
    simp only [write, Option.map_eq_some_iff] at hw
    obtain ⟨weak, hweak, hst⟩ := hw
    cases hst
    exact hi.logInternedString (undo_removeWeak h.internTable s hweak) _ rfl rfl rfl rfl rfl

/-- The run lemma. -/
theorem run_inv {ws : List TransactionalWrite} :
    ∀ {h t h' t'}, Inv h₀ h t → run (h, t) ws = some (h', t') → Inv h₀ h' t' := by
  induction ws with
  | nil =>
    intro h t h' t' hi hrun
    cases hrun
    exact hi
  | cons w ws ih =>
    intro h t h' t' hi hrun
    simp only [run, Option.bind_eq_some_iff] at hrun
    obtain ⟨⟨h₁, t₁⟩, hw, hrest⟩ := hrun
    exact ih (hi.of_write hw) hrest

/-- `UndoFieldWrite` stores back what the getter of the logged kind read. -/
theorem undoFieldWrite_bits (kind : FieldValueKind) (x : Nat) :
    undoFieldWrite ⟨kind.bits x, kind⟩ = kind.bits x := by
  cases kind <;> simp [undoFieldWrite, FieldValueKind.bits]

/-- The fields of an aborted transaction. -/
theorem Inv.abort_fields (hi : Inv h₀ h t) (key : Nat × Nat) (hkey : skipsUndo h₀ key = false) :
    (∃ fieldValue, t.objectLogs.lookup key = some fieldValue ∧
        (undoObjectModifications h t.objectLogs).fields key =
          fieldValue.kind.bits (h₀.fields key)) ∨
      (undoObjectModifications h t.objectLogs).fields key = h₀.fields key := by
  have hkey' : skipsUndo h key = false := by
    unfold skipsUndo at hkey ⊢
    rw [hi.isArrayInstance]
    exact hkey
  simp only [undoObjectModifications]
  rw [restore_apply _ (nodup_filter_key (fun k => !skipsUndo h k) hi.fields.nodup),
    lookup_filter_key (fun k => !skipsUndo h k), hkey', Bool.not_false, if_pos rfl]
  cases hlookup : t.objectLogs.lookup key with
  | some fieldValue =>
    refine Or.inl ⟨fieldValue, rfl, ?_⟩
    have hsaved : fieldValue.value = fieldValue.kind.bits (h₀.fields key) :=
      hi.fields.saved key fieldValue hlookup
    obtain ⟨value, kind⟩ := fieldValue
    simp only at hsaved
    subst hsaved
    exact undoFieldWrite_bits kind _
  | none => exact Or.inr (hi.fields.unchanged key hlookup)

/-- The elements of an aborted transaction. -/
theorem Inv.abort_elements (hi : Inv h₀ h t) (key : Nat × Nat) :
    (∃ value, SavedElement h₀ key (h₀.elements key) value ∧
        (undoArrayModifications h t.arrayLogs).elements key =
          (h₀.componentType key.1).ofUInt64 value) ∨
      (undoArrayModifications h t.arrayLogs).elements key = h₀.elements key := by
  rcases hi.elements.restore_apply
      (fun key value => undoArrayWrite (h.componentType key.1) value) key with
    ⟨value, -, hsaved, hrestore⟩ | ⟨-, hrestore⟩
  · refine Or.inl ⟨value, hsaved, ?_⟩
    simp only [undoArrayModifications]
    rw [hrestore, undoArrayWrite, hi.componentType]
  · exact Or.inr hrestore

/-- After any run of transactional writes, `Abort` gives back the intern table, and each field and
element as far as the conversions through its log allow. -/
theorem abort_restores {ws : List TransactionalWrite} {h : Heap} {t : Transaction}
    (hrun : run (h₀, empty) ws = some (h, t)) :
    ∃ h', t.abort h = some h' ∧ h'.internTable = h₀.internTable ∧
      (∀ key, skipsUndo h₀ key = false →
        (∃ fieldValue, t.objectLogs.lookup key = some fieldValue ∧
            h'.fields key = fieldValue.kind.bits (h₀.fields key)) ∨
          h'.fields key = h₀.fields key) ∧
      (∀ key, (∃ value, SavedElement h₀ key (h₀.elements key) value ∧
          h'.elements key = (h₀.componentType key.1).ofUInt64 value) ∨
        h'.elements key = h₀.elements key) := by
  have hi := run_inv (inv_empty h₀) hrun
  refine ⟨{ undoArrayModifications (undoObjectModifications h t.objectLogs) t.arrayLogs with
      internTable := h₀.internTable }, ?_, rfl, fun key hkey => ?_, fun key => ?_⟩
  · simp only [abort, undoArrayModifications, undoObjectModifications, hi.interns,
      Option.map_some]
  · simpa only [undoArrayModifications] using hi.abort_fields key hkey
  · simpa only [undoArrayModifications, undoObjectModifications] using hi.abort_elements key

/-- A `w`-bit word sign-extended to 64 bits keeps its low `w` bits. -/
theorem toUnsigned_signExtend {w : Nat} (hw : w ≤ 64) {x : Nat} (hx : x < 2 ^ w) :
    Word.toUnsigned w (Word.toUnsigned 64 (Word.toSigned w x)) = x := by
  rw [Word.toUnsigned_toUnsigned_of_le hw, Word.toUnsigned_toSigned, Word.toUnsigned_of_lt hx]

/-- An integral element goes through `uint64_t` and back unchanged. -/
theorem ofUInt64_toUInt64 {t access : PrimitiveType} (ht : t ≠ .float ∧ t ≠ .double)
    (hacc : t.accessibleAs access) {x value : Nat} (hx : x < 2 ^ t.width)
    (hvalue : access.toUInt64 x = some value) : t.ofUInt64 value = x := by
  have hta : access = t := by
    cases t <;> cases access <;> simp_all [PrimitiveType.accessibleAs]
  subst hta
  cases access with
  | boolean | char =>
    simp only [PrimitiveType.toUInt64, Option.some.injEq] at hvalue
    subst hvalue
    exact Word.toUnsigned_of_lt hx
  | byte | short | int | long =>
    simp only [PrimitiveType.toUInt64, Option.some.injEq] at hvalue
    subst hvalue
    exact toUnsigned_signExtend (by decide) hx
  | float => exact absurd rfl ht.1
  | double => exact absurd rfl ht.2

/-- `Abort` gives back every element of an array of integral component type. -/
theorem abort_restores_integral_element {ws : List TransactionalWrite} {h : Heap} {t : Transaction}
    (hrun : run (h₀, empty) ws = some (h, t)) {array index : Nat}
    (ht : h₀.componentType array ≠ .float ∧ h₀.componentType array ≠ .double)
    (hfit : h₀.elements (array, index) < 2 ^ (h₀.componentType array).width) :
    ∃ h', t.abort h = some h' ∧ h'.elements (array, index) = h₀.elements (array, index) := by
  obtain ⟨h', habort, -, -, helements⟩ := abort_restores hrun
  refine ⟨h', habort, ?_⟩
  rcases helements (array, index) with ⟨value, ⟨access, hacc, hvalue⟩, hrestore⟩ | hrestore
  · rw [hrestore]
    exact ofUInt64_toUInt64 ht hacc hfit hvalue
  · exact hrestore

/-- A `float[]` object `1` all of whose elements are `1.0f`. -/
def floatArrayHeap : Heap where
  fields _ := 0
  elements _ := 0x3F800000
  componentType _ := .float
  isArrayInstance _ := true
  internTable := ⟨0, 0⟩

/-- `aput` of `2.0f` into element 0 of a `float[]` goes through `IntArray` and logs the bits of
`1.0f` as the integer `0x3F800000`; `Abort` stores `static_cast<float>` of that integer,
`1065353216.0f`.  Through `FloatArray`, a write over `1.5f` logs the integer `1`, and `Abort`
stores `1.0f`. -/
theorem abort_float_array_element :
    ((run (floatArrayHeap, empty) [.setArrayElement 1 0 .int 0x40000000]).bind fun st =>
        st.2.abort st.1).map (fun h => h.elements (1, 0)) = some 0x4E7E0000 ∧
      floatArrayHeap.elements (1, 0) = 0x3F800000 ∧
      ((run ({ floatArrayHeap with elements := fun _ => 0x3FC00000 }, empty)
          [.setArrayElement 1 0 .float 0x40000000]).bind fun st =>
        st.2.abort st.1).map (fun h => h.elements (1, 0)) = some 0x3F800000 := by
  refine ⟨by decide, rfl, by decide⟩

end Transaction

end Art
