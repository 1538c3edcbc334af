import ReplHost.Proofs.Json.Reads

/-! # Reading back written records

  A record is written as an object of its fields, each member the field's
  name and the bytes of its value. A `WrittenField` packs a field's reader
  with those bytes and the update reading them makes, and carries the proof
  that the reader reads them back. When the written fields are the record's
  field list, in order, and no name is repeated, the record reader applies
  the updates in order and stops after the closing brace
  (`run_readRecord`): every key is found, none has been seen before, and
  each value is followed by a comma or the closing brace.
-/

namespace ReplHost.Json

variable {α β : Type} {src t : List UInt8} {i : Nat}

/-- `r` reads `v` back from `bytes` when a comma or the closing brace
    follows them, and stops after them. -/
def ReadsBack (r : Reader β) (bytes : List UInt8) (v : β) : Prop :=
  ∀ src t i, EndsMember t → r.run ⟨src, bytes ++ t, i⟩ = pure (v, ⟨src, t, i + bytes.length⟩)

/-- A field of a record, the bytes written for its value, and what reading
    them does to a record. -/
structure WrittenField (α : Type) where
  /-- How the field is read. -/
  field : FieldReader α
  /-- The bytes of the field's value. -/
  bytes : List UInt8
  /-- What reading the value does to a record. -/
  update : α → α
  /-- Reading the bytes applies the update. -/
  readsBack : ∀ a, ReadsBack (field.read a) bytes (update a)

namespace WrittenField

/-- A field that stores what `r` reads, where `r` reads `v` back from `bytes`. -/
def ofReader (name : String) (r : α → Reader β) (set : α → β → α) (bytes : List UInt8) (v : β)
    (hr : ∀ a, ReadsBack (r a) bytes v) : WrittenField α where
  field := ⟨name, fun a => do return set a (← r a)⟩
  bytes := bytes
  update := fun a => set a v
  readsBack := by
    intro a src t i ht
    simp [hr a src t i ht]

/-- The member written for the field. -/
def member (w : WrittenField α) : List UInt8 := writeMember (w.field.name, w.bytes)

end WrittenField

/-- With names not repeated, a field is found by its name. -/
theorem find?_name {fields : List (FieldReader α)} (hnames : (fields.map (·.name)).Nodup) {f : FieldReader α}
    (hf : f ∈ fields) : fields.find? (·.name = f.name) = some f := by
  induction fields with
  | nil => cases hf
  | cons g fields ih =>
    simp only [List.map_cons, List.nodup_cons, List.mem_map] at hnames
    rcases List.mem_cons.1 hf with rfl | hf
    · simp
    · have hne : g.name ≠ f.name := fun h => hnames.1 ⟨f, hf, h.symm⟩
      simp [hne, ih hnames.2 hf]

theorem endsMember_members (ws : List (WrittenField α)) :
    EndsMember (ws.flatMap (0x2C :: ·.member) ++ 0x7D :: t) := by
  cases ws with
  | nil => exact ⟨t, Or.inr rfl⟩
  | cons w ws => exact ⟨_, Or.inl rfl⟩

/-- The members after the first, each after a comma, are read up to the
    closing brace, each applying its update. -/
theorem run_fieldsByName (fields : List (FieldReader α)) (ws : List (WrittenField α)) (seen : List String) (a : α)
    (fuel : Nat) (hfuel : ws.length < fuel)
    (hfind : ∀ w ∈ ws, fields.find? (·.name = w.field.name) = some w.field)
    (hnames : (seen ++ ws.map (·.field.name)).Nodup) :
    (fieldsByName fields false seen a fuel).run ⟨src, ws.flatMap (0x2C :: ·.member) ++ 0x7D :: t, i⟩ =
      pure (ws.foldl (fun a w => w.update a) a, ⟨src, 0x7D :: t, i + (ws.flatMap (0x2C :: ·.member)).length⟩) := by
  obtain ⟨f, rfl⟩ : ∃ f, fuel = f + 1 := ⟨fuel - 1, by omega⟩
  induction ws generalizing seen a f i with
  | nil => simp [fieldsByName, run_nextKey_close]
  | cons w ws ih =>
    obtain ⟨g, rfl⟩ : ∃ g, f = g + 1 := ⟨f - 1, by simp only [List.length_cons] at hfuel; omega⟩
    have hnew : w.field.name ∉ seen := by
      intro hk
      simp only [List.map_cons] at hnames
      exact (List.nodup_append.1 hnames).2.2 _ hk _ List.mem_cons_self rfl
    -- the name is new: it is neither among those seen nor repeated after
    have hcontains : seen.contains w.field.name = false := by simpa using hnew
    have hnext := ih (i := i + 1 + (writeString w.field.name).length + 1 + w.bytes.length) (w.field.name :: seen)
      (w.update a) (fun v hv => hfind v (List.mem_cons_of_mem _ hv))
      (by simp only [List.map_cons] at hnames; exact List.perm_middle.nodup_iff.1 hnames) g
      (by simp only [List.length_cons] at hfuel; omega)
    rw [fieldsByName, List.flatMap_cons, List.cons_append, WrittenField.member, writeMember]
    simp only [List.append_assoc, List.cons_append, StateT.run_bind, run_nextKey_comma, pure_bind,
      hfind w List.mem_cons_self, hcontains, Bool.false_eq_true, if_false, run_memberColon,
      w.readsBack a _ _ _ (endsMember_members ws), hnext, List.foldl_cons]
    simp only [List.length_cons, List.length_append]
    congr 3
    omega

theorem run_fieldsByName_first (fields : List (FieldReader α)) (w : WrittenField α) (a : α) (fuel : Nat)
    (hfind : fields.find? (·.name = w.field.name) = some w.field) (ht : EndsMember t) :
    (fieldsByName fields true [] a (fuel + 1)).run ⟨src, w.member ++ t, i⟩ =
      (fieldsByName fields false [w.field.name] (w.update a) fuel).run ⟨src, t, i + w.member.length⟩ := by
  rw [fieldsByName]
  simp only [WrittenField.member, writeMember, List.append_assoc, List.cons_append, StateT.run_bind,
    run_nextKey_first, pure_bind, hfind, List.contains_nil, Bool.false_eq_true, if_false, run_memberColon,
    w.readsBack a _ _ _ ht]
  simp only [List.length_append, List.length_cons]
  congr 2
  omega

theorem writeObject_fields (ws : List (WrittenField α)) :
    writeObject (ws.map fun w => (w.field.name, w.bytes)) = 0x7B :: commaSeparated (ws.map (·.member)) ++ [0x7D] := by
  simp only [writeObject, List.map_map]
  rfl

theorem run_readRecord_open (name : String) (fields : List (FieldReader α)) (init : α) (r : List UInt8) :
    (readRecord name fields init).run ⟨src, 0x7B :: r, i⟩ =
      (do let a ← fieldsByName fields true [] init (r.length + 1); closeObject; pure a).run ⟨src, r, i + 1⟩ := by
  simp [readRecord, run_skipBlanks_cons, isBlank, run_bump]

/-- A record written as an object of its fields, in the order of the field
    list, reads back as the updates of its fields applied in that order. -/
theorem run_readRecord (name : String) (fields : List (FieldReader α)) (ws : List (WrittenField α))
    (hfields : ws.map (·.field) = fields) (hnames : (fields.map (·.name)).Nodup) (init : α) :
    (readRecord name fields init).run ⟨src, writeObject (ws.map fun w => (w.field.name, w.bytes)) ++ t, i⟩ =
      pure (ws.foldl (fun a w => w.update a) init,
        ⟨src, t, i + (writeObject (ws.map fun w => (w.field.name, w.bytes))).length⟩) := by
  have hfind : ∀ w ∈ ws, fields.find? (·.name = w.field.name) = some w.field := fun w hw =>
    find?_name hnames (hfields ▸ List.mem_map_of_mem hw)
  have hws : (ws.map (·.field.name)).Nodup := by
    rw [← hfields, List.map_map] at hnames
    exact hnames
  rw [writeObject_fields]
  cases ws with
  | nil =>
    simp [commaSeparated, run_readRecord_open, fieldsByName, run_nextKey_close, run_closeObject]
  | cons w ws =>
    have hfuel := length_le_flatMap_cons 0x2C WrittenField.member ws
    simp only [List.map_cons, commaSeparated_cons, List.flatMap_map, List.cons_append, List.nil_append,
      List.append_assoc, run_readRecord_open, StateT.run_bind,
      run_fieldsByName_first fields w init _ (hfind w List.mem_cons_self) (endsMember_members ws)]
    rw [run_fieldsByName fields ws [w.field.name] _ _ (by simp only [List.length_append, List.length_cons]; omega)
      (fun v hv => hfind v (List.mem_cons_of_mem _ hv)) hws]
    simp only [pure_bind, run_closeObject, List.foldl_cons, StateT.run_pure]
    congr 3
    simp only [List.length_cons, List.length_append, List.length_nil]
    omega

/-- A reader that reads the whole text reads the document. -/
theorem readDocument_of_run {r : Reader α} {bytes : List UInt8} {a : α}
    (hr : r.run ⟨bytes, bytes, 0⟩ = pure (a, ⟨bytes, [], bytes.length⟩)) : readDocument r bytes = .ok a := by
  simp [readDocument, Cursor.start, StateT.run_bind, hr, skipBlanks, dropBlanks]
  rfl

/-! ### Values read back in a member -/

theorem readsBack_readString (expected s : String) : ReadsBack (readString expected) (writeString s) s :=
  fun _ _ _ _ => run_readString expected s

theorem readsBack_readBool (b : Bool) : ReadsBack readBool (writeBool b) b :=
  fun _ _ _ _ => run_readBool b

theorem readsBack_readOptional_string (expected : String) (o : Option String) :
    ReadsBack (readOptional (readString expected)) (writeOptional writeString o) o :=
  fun _ _ _ _ => run_readOptional_string expected o

theorem readsBack_readUnsigned {n bound : Nat} (hn : n ≤ bound) (hbound : bound ≤ Decimal.wordMax)
    (expected : String) : ReadsBack (readUnsigned bound expected) (writeNat n) n :=
  fun _ _ _ ht => run_readUnsigned hn hbound ht expected

theorem readsBack_readStrings (ss : List String) : ReadsBack readStrings (writeArray (ss.map writeString)) ss :=
  fun _ _ _ _ => run_readStrings ss

theorem readsBack_readStringMap (kvs : List (String × String)) (hkeys : (kvs.map (·.1)).Nodup) :
    ReadsBack readStringMap (writeObject (kvs.map fun kv => (kv.1, writeString kv.2))) kvs :=
  fun _ _ _ _ => run_readStringMap kvs hkeys

/-- A record reads back as `x` when its written fields are its field list
    and, applied in order to any record, give `x`. -/
theorem readsBack_readRecord {name : String} {fields : List (FieldReader α)} {x : α} (ws : List (WrittenField α))
    (hfields : ws.map (·.field) = fields) (hnames : (fields.map (·.name)).Nodup)
    (hfold : ∀ a, ws.foldl (fun a w => w.update a) a = x) (init : α) :
    ReadsBack (readRecord name fields init) (writeObject (ws.map fun w => (w.field.name, w.bytes))) x := by
  intro src t i _
  rw [run_readRecord name fields ws hfields hnames init, hfold]

end ReplHost.Json
