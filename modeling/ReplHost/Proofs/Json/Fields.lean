import Mathlib.Data.List.Nodup
import ReplHost.Proofs.Json.Values
import ReplHost.Proofs.Json.Typed

/-! # Reading records from any object

  A record is read from an object whose members name its fields. Here the
  object may be written in any way the grammar allows: blanks anywhere
  between tokens, names and strings in any spelling, and members that name
  no field, with any well-formed value, which the reader passes over.

  A field is described by a `FieldSpec`: its name, and the texts of its
  value with the change each makes to the record. `MembersText` reads the
  members in order into the composition of their changes; `RecordText`
  is a whole object whose fields are named at most once. When the readers
  of a record read the fields its specs describe (`FieldReads`, one reader
  per spec, in order), `readRecord` returns the defaults with the members'
  changes applied (`run_readRecord_text`), and `readDocument` does the same for
  a whole text (`readDocument_reads`).

  The loop over members is proved one round at a time: a round reads a
  name and either a field's value (`run_fieldsByName_field`) or a value it
  passes over (`run_fieldsByName_other`); the rounds after the first start
  at a comma (`run_fieldsByName_members`).
-/

namespace ReplHost.Json

variable {α β : Type} {src t : List UInt8} {i : Nat}

/-! ### Fields and their texts -/

/-- A field of a record of type `α` as an object gives it. -/
structure FieldSpec (α : Type) where
  /-- The member name. -/
  name : String
  /-- The texts of the value, each with the change it makes to the record. -/
  Text : List UInt8 → (α → α) → Prop

/-- A field holding a value of `T`, stored into the record by `set`. -/
def FieldSpec.of (name : String) (T : List UInt8 → β → Prop) (set : α → β → α) : FieldSpec α :=
  ⟨name, fun bytes u => ∃ v, T bytes v ∧ u = fun a => set a v⟩

/-- The members of an object, as a record takes them. A member naming a
    field of `specs` carries a text of that field; any other member carries
    any value. `names` lists the fields named, in order, and `u` is the
    composition of the fields' changes, the first applied first. -/
inductive MembersText (specs : List (FieldSpec α)) : List MemberBytes → List String → (α → α) → Prop
  | nil : MembersText specs [] [] id
  | field {m : MemberBytes} {ms : List MemberBytes} {names : List String} {u v : α → α} (s : FieldSpec α) :
      s ∈ specs → StringText m.name.body s.name → s.Text m.value.body v → MembersText specs ms names u →
      MembersText specs (m :: ms) (s.name :: names) (u ∘ v)
  | other {m : MemberBytes} {ms : List MemberBytes} {names : List String} {u : α → α} (k : String) :
      k ∉ specs.map FieldSpec.name → StringText m.name.body k → ValueText m.value.body →
      MembersText specs ms names u → MembersText specs (m :: ms) names u

/-- An object read as a record: members around which blanks stand, no
    field named twice, and `u` the composition of the fields' changes. -/
def RecordText (specs : List (FieldSpec α)) (bytes : List UInt8) (u : α → α) : Prop :=
  ∃ (ws : List UInt8) (members : List MemberBytes) (names : List String), Blanks ws ∧
    (∀ m ∈ members, m.Blank) ∧ MembersText specs members names u ∧ names.Nodup ∧
    bytes = enclosed 0x7B 0x7D ws (members.map MemberBytes.bytes)

/-- A field that is a record of its own, read from an object: its changes
    apply to the part `get` takes out, which `set` puts back. -/
def FieldSpec.record (name : String) (specs : List (FieldSpec β)) (get : α → β) (set : α → β → α) :
    FieldSpec α :=
  ⟨name, fun bytes u => ∃ u', RecordText specs bytes u' ∧ u = fun a => set a (u' (get a))⟩

/-! ### Readers of fields -/

/-- `f` reads the field `s` describes, under its name: every text of the
    value, after any blanks and before a delimiter, makes its change. -/
def FieldReads (f : FieldReader α) (s : FieldSpec α) : Prop :=
  f.name = s.name ∧ ∀ (src ws bytes t : List UInt8) (i : Nat) (u : α → α) (a : α), Blanks ws →
    s.Text bytes u → Delimited t →
      (f.read a).run ⟨src, ws ++ bytes ++ t, i⟩ = pure (u a, ⟨src, t, i + ws.length + bytes.length⟩)

/-- A field read by a reader of its values and stored by `set`. -/
theorem fieldReads_of (name : String) {r : Reader β} {T : List UInt8 → β → Prop} (hr : ReadsText r T)
    (set : α → β → α) : FieldReads ⟨name, fun a => do return set a (← r)⟩ (.of name T set) := by
  refine ⟨rfl, fun src ws bytes t i u a hws h ht => ?_⟩
  obtain ⟨v, hv, rfl⟩ := h
  simp only [StateT.run_bind, hr src ws bytes t i v hws hv ht, pure_bind]
  rfl

/-- The reader of a field names the field that its spec names. -/
theorem names_eq_of_forall₂ {fields : List (FieldReader α)} {specs : List (FieldSpec α)}
    (h : List.Forall₂ FieldReads fields specs) : fields.map FieldReader.name = specs.map FieldSpec.name := by
  induction h with
  | nil => rfl
  | cons hf _ ih => simp [hf.1, ih]

/-- With names given once, the field a spec describes is found by its name,
    and its reader reads it. -/
theorem find?_of_forall₂ {fields : List (FieldReader α)} {specs : List (FieldSpec α)}
    (h : List.Forall₂ FieldReads fields specs) (hnames : (specs.map FieldSpec.name).Nodup) {s : FieldSpec α}
    (hs : s ∈ specs) : ∃ f, fields.find? (·.name = s.name) = some f ∧ FieldReads f s := by
  induction h with
  | nil => cases hs
  | @cons f s' fs ss hf _ ih =>
    simp only [List.map_cons, List.nodup_cons, List.mem_map] at hnames
    rcases List.mem_cons.1 hs with rfl | hs
    · exact ⟨f, by simp [hf.1], hf⟩
    · -- the name is not the first spec's, so the search goes past the first reader
      have hne : f.name ≠ s.name := by
        rw [hf.1]
        exact fun h => hnames.1 ⟨s, hs, h.symm⟩
      obtain ⟨g, hg, hgs⟩ := ih hnames.2 hs
      exact ⟨g, by simp [hne, hg], hgs⟩

/-- A name no spec gives finds no reader. -/
theorem find?_eq_none_of_forall₂ {fields : List (FieldReader α)} {specs : List (FieldSpec α)}
    (h : List.Forall₂ FieldReads fields specs) {k : String} (hk : k ∉ specs.map FieldSpec.name) :
    fields.find? (·.name = k) = none := by
  rw [List.find?_eq_none]
  intro f hf hfk
  rw [← names_eq_of_forall₂ h] at hk
  exact hk (List.mem_map.2 ⟨f, hf, by simpa using hfk⟩)

/-! ### The loop over members -/

/-- One round for a member that names a field, once its name is read: the
    colon and the value, which makes the field's change. -/
theorem run_fieldsByName_field {fields : List (FieldReader α)} {first : Bool} {text : List UInt8}
    {m : MemberBytes} {s : FieldSpec α} {f : FieldReader α} {v : α → α} {seen : List String}
    (hf : FieldReads f s) (hfind : fields.find? (·.name = s.name) = some f) (hseen : s.name ∉ seen)
    (hm : m.Blank) (hv : s.Text m.value.body v) {rest : List UInt8} (hrest : Delimited rest) (a : α) (g : Nat)
    {j : Nat} (hkey : (nextKey first).run ⟨src, text, i⟩ =
      pure (some s.name, ⟨src, m.name.after ++ 0x3A :: (m.value.bytes ++ rest), j⟩)) :
    (fieldsByName fields first seen a (g + 1)).run ⟨src, text, i⟩ =
      (fieldsByName fields false (s.name :: seen) (v a) g).run
        ⟨src, m.value.after ++ rest, j + m.name.after.length + 1 + m.value.before.length +
          m.value.body.length⟩ := by
  obtain ⟨⟨-, hna⟩, hvb, hva⟩ := hm
  have hread := hf.2 src m.value.before m.value.body (m.value.after ++ rest) (j + m.name.after.length + 1) v a hvb
    hv (Delimited.blanks_append hva hrest)
  have hcontains : seen.contains s.name = false := by simpa using hseen
  rw [fieldsByName]
  simp only [StateT.run_bind, hkey, pure_bind, hfind, hcontains, Bool.false_eq_true, ↓reduceIte, Padded.bytes,
    List.append_assoc, run_memberColon_blanks hna]
  rw [← List.append_assoc, hread]
  rfl

/-- One round for a member that names no field, once its name is read: the
    colon and the value, which is passed over. -/
theorem run_fieldsByName_other {fields : List (FieldReader α)} {first : Bool} {text : List UInt8}
    {m : MemberBytes} {k : String} {seen : List String} (hfind : fields.find? (·.name = k) = none)
    (hm : m.Blank) (hv : ValueText m.value.body) {rest : List UInt8} (hrest : Delimited rest) (a : α) (g : Nat)
    {j : Nat} (hkey : (nextKey first).run ⟨src, text, i⟩ =
      pure (some k, ⟨src, m.name.after ++ 0x3A :: (m.value.bytes ++ rest), j⟩)) :
    (fieldsByName fields first seen a (g + 1)).run ⟨src, text, i⟩ =
      (fieldsByName fields false seen a g).run
        ⟨src, m.value.after ++ rest, j + m.name.after.length + 1 + m.value.before.length +
          m.value.body.length⟩ := by
  obtain ⟨⟨-, hna⟩, hvb, hva⟩ := hm
  have hskip := hv.skips src m.value.before (m.value.after ++ rest) (j + m.name.after.length + 1)
    ((m.value.before ++ m.value.body ++ (m.value.after ++ rest)).length + 1) hvb (Delimited.blanks_append hva hrest)
    (by simp; omega)
  simp only [List.append_assoc] at hskip
  rw [fieldsByName]
  simp only [StateT.run_bind, hkey, pure_bind, hfind, Padded.bytes, List.append_assoc, run_memberColon_blanks hna,
    StateT.run_get, hskip]

/-- The bytes from a member's comma: the comma, the name with the blanks
    before it, and what follows the name. -/
theorem flatMap_member_cons (m : MemberBytes) (ms : List MemberBytes) (r : List UInt8) :
    (m :: ms).flatMap (0x2C :: ·.bytes) ++ r = 0x2C :: (m.name.before ++ m.name.body ++
      (m.name.after ++ 0x3A :: (m.value.bytes ++ (ms.flatMap (0x2C :: ·.bytes) ++ r)))) := by
  simp [MemberBytes.bytes, Padded.bytes]

/-- The members after the first, each after a comma, make their changes in
    order up to the closing brace. -/
theorem run_fieldsByName_members {fields : List (FieldReader α)} {specs : List (FieldSpec α)}
    (hfields : List.Forall₂ FieldReads fields specs) (hnames : (specs.map FieldSpec.name).Nodup)
    {ms : List MemberBytes} {names : List String} {u : α → α} (h : MembersText specs ms names u)
    (hblank : ∀ m ∈ ms, m.Blank) {seen : List String} (hseen : (names ++ seen).Nodup)
    {pre : List UInt8} (hpre : Blanks pre) (a : α) (fuel : Nat) (hfuel : ms.length < fuel) :
    (fieldsByName fields false seen a fuel).run ⟨src, pre ++ ms.flatMap (0x2C :: ·.bytes) ++ 0x7D :: t, i⟩ =
      pure (u a, ⟨src, 0x7D :: t, i + (pre ++ ms.flatMap (0x2C :: ·.bytes)).length⟩) := by
  induction h generalizing seen pre a fuel i with
  | nil =>
    obtain ⟨f, rfl⟩ : ∃ f, fuel = f + 1 := ⟨fuel - 1, by simp at hfuel; omega⟩
    rw [fieldsByName]
    simp [run_nextKey_close_blanks false hpre]
  | @field m ms names u v s hs hname hv _ ih =>
    obtain ⟨f, hfind, hf⟩ := find?_of_forall₂ hfields hnames hs
    have hm := hblank m List.mem_cons_self
    obtain ⟨g, rfl⟩ : ∃ g, fuel = g + 1 := ⟨fuel - 1, by simp at hfuel; omega⟩
    -- a field named once: not among those read before
    have hnew : s.name ∉ seen := fun hmem => (List.nodup_cons.1 hseen).1 (List.mem_append_right _ hmem)
    have hnext := @ih (i + pre.length + 1 + m.name.before.length + m.name.body.length + m.name.after.length + 1 +
      m.value.before.length + m.value.body.length) (fun x hx => hblank x (List.mem_cons_of_mem _ hx))
      (s.name :: seen) (List.nodup_middle.2 hseen) m.value.after hm.2.2 (v a) g (by simp at hfuel; omega)
    rw [List.append_assoc] at hnext
    rw [List.append_assoc, flatMap_member_cons, run_fieldsByName_field hf hfind hnew hm hv
      (delimited_items _ ms (.inr rfl)) a g (run_nextKey_text_comma hpre hm.1.1 hname _), hnext]
    have hbytes := m.length_bytes
    exact pure_index_congr (by
      simp only [List.flatMap_cons, List.length_append, List.length_cons]
      omega)
  | @other m ms names u k hk hname hv _ ih =>
    have hm := hblank m List.mem_cons_self
    obtain ⟨g, rfl⟩ : ∃ g, fuel = g + 1 := ⟨fuel - 1, by simp at hfuel; omega⟩
    have hnext := @ih (i + pre.length + 1 + m.name.before.length + m.name.body.length + m.name.after.length + 1 +
      m.value.before.length + m.value.body.length) (fun x hx => hblank x (List.mem_cons_of_mem _ hx))
      seen hseen m.value.after hm.2.2 a g (by simp at hfuel; omega)
    rw [List.append_assoc] at hnext
    rw [List.append_assoc, flatMap_member_cons, run_fieldsByName_other (find?_eq_none_of_forall₂ hfields hk) hm hv
      (delimited_items _ ms (.inr rfl)) a g (run_nextKey_text_comma hpre hm.1.1 hname _), hnext]
    have hbytes := m.length_bytes
    exact pure_index_congr (by
      simp only [List.flatMap_cons, List.length_append, List.length_cons]
      omega)

/-! ### Records -/

/-- An object with members: its opening brace, the first member, and the
    others each after a comma. -/
theorem enclosed_members_cons (ws ws' : List UInt8) (m : MemberBytes) (ms : List MemberBytes) :
    ws ++ enclosed 0x7B 0x7D ws' ((m :: ms).map MemberBytes.bytes) ++ t = ws ++ 0x7B ::
      (m.name.before ++ m.name.body ++
        (m.name.after ++ 0x3A :: (m.value.bytes ++ (ms.flatMap (0x2C :: ·.bytes) ++ 0x7D :: t)))) := by
  simp [enclosed, commaSeparated_cons, List.flatMap_map, MemberBytes.bytes, Padded.bytes]

theorem length_enclosed_members_cons (ws' : List UInt8) (m : MemberBytes) (ms : List MemberBytes) :
    (enclosed 0x7B 0x7D ws' ((m :: ms).map MemberBytes.bytes)).length =
      m.name.before.length + m.name.body.length + m.name.after.length + 1 + m.value.before.length +
        m.value.body.length + m.value.after.length + (ms.flatMap (0x2C :: ·.bytes)).length + 2 ∧
      ms.length ≤ (ms.flatMap (0x2C :: ·.bytes)).length := by
  have hbytes := m.length_bytes
  refine ⟨?_, length_le_flatMap_cons 0x2C MemberBytes.bytes ms⟩
  simp only [enclosed, if_neg (List.cons_ne_nil _ _), List.map_cons, commaSeparated_cons, List.flatMap_map,
    List.length_cons, List.length_append, List.length_nil]
  omega

theorem run_readRecord_blanks (name : String) (fields : List (FieldReader α)) (init : α) {ws : List UInt8}
    (hws : Blanks ws) (r : List UInt8) :
    (readRecord name fields init).run ⟨src, ws ++ 0x7B :: r, i⟩ =
      (do let a ← fieldsByName fields true [] init (r.length + 1); closeObject; pure a).run
        ⟨src, r, i + ws.length + 1⟩ := by
  simp +decide only [readRecord, StateT.run_bind, run_skipBlanks_to hws (b := 0x7B) (by decide), pure_bind,
    run_bump, StateT.run_get]

/-- A record is read from any object of its fields as the defaults with the
    members' changes applied, in the order written. -/
theorem run_readRecord_text (name : String) {fields : List (FieldReader α)} {specs : List (FieldSpec α)}
    (hfields : List.Forall₂ FieldReads fields specs) (hnames : (specs.map FieldSpec.name).Nodup) (init : α)
    {ws bytes : List UInt8} {u : α → α} (hws : Blanks ws) (h : RecordText specs bytes u) :
    (readRecord name fields init).run ⟨src, ws ++ bytes ++ t, i⟩ =
      pure (u init, ⟨src, t, i + ws.length + bytes.length⟩) := by
  obtain ⟨ws', ms, names, hws', hblank, hms, hnodup, rfl⟩ := h
  cases hms with
  | nil =>
    rw [show ws ++ enclosed 0x7B 0x7D ws' (([] : List MemberBytes).map MemberBytes.bytes) ++ t =
      ws ++ 0x7B :: (ws' ++ 0x7D :: t) by simp [enclosed], run_readRecord_blanks name fields init hws, fieldsByName]
    simp [run_nextKey_close_blanks true hws', run_closeObject]
    exact pure_index_congr (by simp [enclosed]; omega)
  | @field m ms names u v s hs hname hv hrest =>
    -- the first member names a field; the others follow, each after a comma
    obtain ⟨f, hfind, hf⟩ := find?_of_forall₂ hfields hnames hs
    have hm := hblank m List.mem_cons_self
    have hlen := length_enclosed_members_cons ws' m ms
    have hloop := @run_fieldsByName_members α src t (i + ws.length + 1 + m.name.before.length + m.name.body.length +
      m.name.after.length + 1 + m.value.before.length + m.value.body.length) fields specs hfields hnames ms names u
      hrest (fun x hx => hblank x (List.mem_cons_of_mem _ hx)) [s.name] (List.nodup_middle.2 (by simpa using hnodup))
      m.value.after hm.2.2 (v init)
    simp only [List.append_assoc] at hloop
    rw [enclosed_members_cons, run_readRecord_blanks name fields init hws, StateT.run_bind,
      run_fieldsByName_field hf hfind List.not_mem_nil hm hv (delimited_items _ ms (.inr rfl)) init _
        (run_nextKey_text_first hm.1.1 hname _), hloop _ (by simp only [List.length_append, List.length_cons]; omega)]
    simp only [pure_bind, StateT.run_bind, run_closeObject, StateT.run_pure, Function.comp]
    exact pure_index_congr (by simp only [List.length_append]; omega)
  | @other m ms names u k hk hname hv hrest =>
    -- the first member names no field; the others follow, each after a comma
    have hm := hblank m List.mem_cons_self
    have hlen := length_enclosed_members_cons ws' m ms
    have hloop := @run_fieldsByName_members α src t (i + ws.length + 1 + m.name.before.length + m.name.body.length +
      m.name.after.length + 1 + m.value.before.length + m.value.body.length) fields specs hfields hnames ms names u
      hrest (fun x hx => hblank x (List.mem_cons_of_mem _ hx)) [] (by simpa using hnodup)
      m.value.after hm.2.2 init
    simp only [List.append_assoc] at hloop
    rw [enclosed_members_cons, run_readRecord_blanks name fields init hws, StateT.run_bind,
      run_fieldsByName_other (find?_eq_none_of_forall₂ hfields hk) hm hv (delimited_items _ ms (.inr rfl)) init _
        (run_nextKey_text_first hm.1.1 hname _), hloop _ (by simp only [List.length_append, List.length_cons]; omega)]
    simp only [pure_bind, StateT.run_bind, run_closeObject, StateT.run_pure]
    exact pure_index_congr (by simp only [List.length_append]; omega)

/-- A record's reader reads the texts of its objects as the changes they
    make to `init`. -/
theorem readRecord_reads (name : String) {fields : List (FieldReader α)} {specs : List (FieldSpec α)}
    (hfields : List.Forall₂ FieldReads fields specs) (hnames : (specs.map FieldSpec.name).Nodup) (init : α) :
    ReadsText (readRecord name fields init) (fun bytes a => ∃ u, RecordText specs bytes u ∧ a = u init) := by
  rintro src ws bytes t i _ hws ⟨u, hu, rfl⟩ -
  exact run_readRecord_text name hfields hnames init hws hu

/-- A field that is a record of its own, read from the part `get` takes out
    and put back by `set`. -/
theorem fieldReads_record (name recordName : String) {fields : List (FieldReader β)}
    {specs : List (FieldSpec β)} (hfields : List.Forall₂ FieldReads fields specs)
    (hnames : (specs.map FieldSpec.name).Nodup) (get : α → β) (set : α → β → α) :
    FieldReads ⟨name, fun a => do return set a (← readRecord recordName fields (get a))⟩
      (.record name specs get set) := by
  refine ⟨rfl, fun src ws bytes t i u a hws h _ => ?_⟩
  obtain ⟨u', hu', rfl⟩ := h
  simp only [StateT.run_bind, run_readRecord_text recordName hfields hnames (get a) hws hu', pure_bind]
  rfl

/-! ### Whole texts -/

/-- A whole text of `T`, with blanks before and after the value, is read
    as the value. -/
theorem readDocument_reads {r : Reader β} {T : List UInt8 → β → Prop} (hr : ReadsText r T)
    {bytes : List UInt8} {v : β} (h : DocumentText T bytes v) : readDocument r bytes = .ok v := by
  obtain ⟨p, ⟨hbefore, hafter⟩, hv, rfl⟩ := h
  have hend : Delimited p.after := by
    simpa using Delimited.blanks_append (t := []) hafter (.inl rfl)
  have hrun := hr p.bytes p.before p.body p.after 0 v hbefore hv hend
  simp only [Padded.bytes, List.append_assoc] at hrun
  simp [readDocument, Cursor.start, Padded.bytes, hrun, run_skipBlanks_end hafter]
  rfl

end ReplHost.Json
