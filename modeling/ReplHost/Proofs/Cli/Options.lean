import ReplHost.Cli.Args
import Mathlib.Data.List.TakeDrop

/-! # Reading the command line

  The words after the program name are cut at the first `--`: what follows
  is handed to the console program, and the option reader sees only what
  precedes it. `Lexes` is the grammar of those option words as the reader
  takes them with the host's table of options (`Opt.ofShort?`,
  `Opt.ofLong?`):

  - a long option `--name`, `--name=value` or `--name value`;
  - a cluster `-abc` of short flags, which may end in a setting whose value
    is the rest of the word (less one `=` in front) or else the next word,
    whatever that looks like.

  Each word yields the options it names (`Item`), in order.

  Main statement (`parse_reads_option_grammar`): the words after `--` change
  nothing but the console's arguments; the option words parse exactly when
  they follow the grammar with no blank title, and then each setting holds
  the value of its last occurrence, in whichever spelling, and a flag is
  raised exactly when it occurs; a stray word, an unknown option or a setting
  without its value where an option is expected, and a blank title anywhere,
  make the whole line fail.
-/

namespace ReplHost.Cli

/-! ### The option table -/

theorem ofLong?_eq_some {name : String} {o : Opt} (h : Opt.ofLong? name = some o) :
    name ∈ ["help", "version", "config", "executable", "working-dir", "title", "log-level"] := by
  unfold Opt.ofLong? at h
  split at h <;> simp_all

/-- No long option the host knows has `=` in its name. -/
theorem eq_not_mem_of_ofLong? {name : String} {o : Opt} (h : Opt.ofLong? name = some o) :
    '=' ∉ name.toList := by
  have hname := ofLong?_eq_some h
  simp only [List.mem_cons, List.not_mem_nil, or_false] at hname
  rcases hname with rfl | rfl | rfl | rfl | rfl | rfl | rfl <;> decide

/-- No short letter the host knows is `=` or `-`. -/
theorem ne_of_ofShort? {c : Char} {o : Opt} (h : Opt.ofShort? c = some o) : c ≠ '=' ∧ c ≠ '-' := by
  constructor <;> (rintro rfl; cases h)

theorem splitLong_of_not_mem {body : List Char} (h : '=' ∉ body) :
    splitLong body = (String.ofList body, none) := by
  have hall : ∀ c ∈ body, decide (c ≠ '=') = true := fun c hc => decide_eq_true (by rintro rfl; exact h hc)
  have htake : body.takeWhile (· ≠ '=') = body := by
    simpa using @List.takeWhile_append_of_pos _ (· ≠ '=') body [] hall
  have hdrop : body.dropWhile (· ≠ '=') = [] := by
    simpa using @List.dropWhile_append_of_pos _ (· ≠ '=') body [] hall
  unfold splitLong
  rw [List.span_eq_takeWhile_dropWhile, htake, hdrop]

theorem splitLong_append {name v : List Char} (h : '=' ∉ name) :
    splitLong (name ++ '=' :: v) = (String.ofList name, some (String.ofList v)) := by
  have hall : ∀ c ∈ name, decide (c ≠ '=') = true := fun c hc => decide_eq_true (by rintro rfl; exact h hc)
  have htake : (name ++ '=' :: v).takeWhile (· ≠ '=') = name := by
    rw [List.takeWhile_append_of_pos hall]
    simp
  have hdrop : (name ++ '=' :: v).dropWhile (· ≠ '=') = '=' :: v := by
    rw [List.dropWhile_append_of_pos hall]
    simp
  unfold splitLong
  rw [List.span_eq_takeWhile_dropWhile, htake, hdrop]


/-! ### Options read -/

/-- An option as the command line gives it: a flag, or a setting with its value. -/
inductive Item where
  /-- A flag. -/
  | flag (f : Flag)
  /-- A setting with its value. -/
  | setting (s : Setting) (v : String)
  deriving DecidableEq, Repr

/-- The value an item gives a setting, if it is that setting. -/
def Item.valueFor (s : Setting) : Item → Option String
  | .flag _ => none
  | .setting s' v => if s' = s then some v else none

/-- The value of the last occurrence of a setting among the options read. -/
def lastValue (s : Setting) (items : List Item) : Option String :=
  (items.filterMap (Item.valueFor s)).getLast?

/-- No title among the options read is blank. -/
def TitlesFilled (items : List Item) : Prop :=
  ∀ v, Item.setting .title v ∈ items → Text.trim v.toList ≠ []

namespace Args

/-- The value the arguments hold for a setting. -/
def get (a : Args) : Setting → Option String
  | .config => a.config
  | .executable => a.executable
  | .workingDir => a.workingDir
  | .title => a.title
  | .logLevel => a.logLevel

/-- Whether the arguments have a flag raised. -/
def isRaised (a : Args) : Flag → Bool
  | .help => a.help
  | .version => a.version

/-- Records an option, a blank title included. -/
def record (a : Args) : Item → Args
  | .flag f => a.raise f
  | .setting .config v => { a with config := some v }
  | .setting .executable v => { a with executable := some v }
  | .setting .workingDir v => { a with workingDir := some v }
  | .setting .title v => { a with title := some v }
  | .setting .logLevel v => { a with logLevel := some v }

/-- Takes an option as reading does: a blank title is refused. -/
def put (a : Args) : Item → Except ArgsError Args
  | .flag f => .ok (a.raise f)
  | .setting s v => a.assign s v

theorem get_record (a : Args) (i : Item) (s : Setting) :
    (a.record i).get s = (i.valueFor s).or (a.get s) := by
  cases i with
  | flag f => cases f <;> cases s <;> rfl
  | setting s' v => cases s' <;> cases s <;> rfl

theorem isRaised_record (a : Args) (i : Item) (f : Flag) :
    (a.record i).isRaised f = true ↔ a.isRaised f = true ∨ i = .flag f := by
  cases i with
  | flag g => cases g <;> cases f <;> simp [record, raise, isRaised]
  | setting s v => cases s <;> cases f <;> simp [record, isRaised]

@[simp] theorem args_record (a : Args) (i : Item) : (a.record i).args = a.args := by
  cases i with
  | flag f => cases f <;> rfl
  | setting s v => cases s <;> rfl

theorem put_eq_ok_iff {a a' : Args} {i : Item} :
    a.put i = .ok a' ↔ (∀ v, i = .setting .title v → Text.trim v.toList ≠ []) ∧ a' = a.record i := by
  cases i with
  | flag f =>
    simp only [put, record, Except.ok.injEq, reduceCtorEq, false_implies, implies_true, true_and]
    exact eq_comm
  | setting s v =>
    cases s with
    | title =>
      by_cases hb : Text.trim v.toList = []
      · simp [put, assign, hb]
      · simp only [put, assign, hb, if_false, Except.ok.injEq, Item.setting.injEq, true_and]
        exact ⟨fun h => ⟨fun _ hv => hv ▸ hb, h.symm⟩, fun h => h.2.symm⟩
    | _ =>
      simp only [put, assign, record, Except.ok.injEq, Item.setting.injEq, reduceCtorEq, false_and,
        false_implies, implies_true, true_and]
      exact eq_comm

end Args

theorem titlesFilled_cons {i : Item} {items : List Item} :
    TitlesFilled (i :: items) ↔ (∀ v, i = .setting .title v → Text.trim v.toList ≠ []) ∧ TitlesFilled items := by
  simp only [TitlesFilled, List.mem_cons]
  exact ⟨fun h => ⟨fun v hv => h v (.inl hv.symm), fun v hv => h v (.inr hv)⟩,
    fun h v hv => hv.elim (fun he => h.1 v he.symm) (h.2 v)⟩

/-- Reading options one after the other succeeds exactly when no title is
    blank, and then records each of them. -/
theorem foldlM_put_eq_ok_iff {items : List Item} {a a' : Args} :
    items.foldlM Args.put a = .ok a' ↔ TitlesFilled items ∧ a' = items.foldl Args.record a := by
  induction items generalizing a with
  | nil =>
    simp only [List.foldlM_nil, List.foldl_nil, pure, Except.pure, Except.ok.injEq]
    exact ⟨fun h => ⟨fun _ hv => by simp at hv, h.symm⟩, fun h => h.2.symm⟩
  | cons i items ih =>
    rw [List.foldlM_cons, titlesFilled_cons, List.foldl_cons]
    cases hput : a.put i with
    | error e =>
      have hblank : ¬∀ v, i = .setting .title v → Text.trim v.toList ≠ [] := fun hi => by
        have hok : a.put i = .ok (a.record i) := Args.put_eq_ok_iff.2 ⟨hi, rfl⟩
        rw [hput] at hok
        cases hok
      simp only [bind, Except.bind, reduceCtorEq, false_iff]
      exact fun h => hblank h.1.1
    | ok b =>
      obtain ⟨hi, rfl⟩ := Args.put_eq_ok_iff.1 hput
      simp only [bind, Except.bind]
      rw [ih]
      exact ⟨fun h => ⟨⟨hi, h.1⟩, h.2⟩, fun h => ⟨h.1.2, h.2⟩⟩

/-- A setting whose value is taken, and then the rest read one after the
    other. -/
theorem foldlM_put_setting {a b a' : Args} {s : Setting} {v : String} {items : List Item}
    (hb : a.assign s v = .ok b) (hf : items.foldlM Args.put b = .ok a') :
    (Item.setting s v :: items).foldlM Args.put a = .ok a' := by
  simp [List.foldlM_cons, Args.put, hb, bind, Except.bind, hf]

theorem lastValue_cons (s : Setting) (i : Item) (items : List Item) :
    lastValue s (i :: items) = (lastValue s items).or (i.valueFor s) := by
  unfold lastValue
  rw [List.filterMap_cons]
  cases i.valueFor s with
  | none => simp
  | some v =>
    rw [List.getLast?_cons]
    cases (items.filterMap (Item.valueFor s)).getLast? <;> rfl

/-- Each setting holds the value of its last occurrence. -/
theorem get_foldl_record (items : List Item) (a : Args) (s : Setting) :
    (items.foldl Args.record a).get s = (lastValue s items).or (a.get s) := by
  induction items generalizing a with
  | nil => simp [lastValue]
  | cons i items ih => rw [List.foldl_cons, ih, Args.get_record, lastValue_cons, Option.or_assoc]

/-- A flag is raised when it was, or when it occurs. -/
theorem isRaised_foldl_record (items : List Item) (a : Args) (f : Flag) :
    (items.foldl Args.record a).isRaised f = true ↔ a.isRaised f = true ∨ .flag f ∈ items := by
  induction items generalizing a with
  | nil => simp
  | cons i items ih =>
    rw [List.foldl_cons, ih, Args.isRaised_record, List.mem_cons]
    constructor
    · rintro ((h | rfl) | h)
      · exact .inl h
      · exact .inr (.inl rfl)
      · exact .inr (.inr h)
    · rintro (h | rfl | h)
      · exact .inl (.inl h)
      · exact .inl (.inr rfl)
      · exact .inr h

@[simp] theorem args_foldl_record (items : List Item) (a : Args) : (items.foldl Args.record a).args = a.args := by
  induction items generalizing a with
  | nil => rfl
  | cons i items ih => rw [List.foldl_cons, ih, Args.args_record]

/-! ### The grammar of options -/

/-- A run of short letters, each naming a flag, and the flags they name. -/
inductive ShortFlags : List Char → List Item → Prop where
  | nil : ShortFlags [] []
  | cons {c : Char} {f : Flag} {cs : List Char} {items : List Item} :
      Opt.ofShort? c = some (.flag f) → ShortFlags cs items → ShortFlags (c :: cs) (.flag f :: items)

/-- The value attached to a short setting: the rest of its word, less one
    `=` in front. -/
def attachedValue : List Char → String
  | '=' :: v => String.ofList v
  | v => String.ofList v

/-- How the words before `--` read as options, in order. -/
inductive Lexes : List String → List Item → Prop where
  | nil : Lexes [] []
  /-- `--name`, a flag. -/
  | longFlag {name : String} {f : Flag} {rest : List String} {items : List Item} :
      Opt.ofLong? name = some (.flag f) → Lexes rest items →
      Lexes (("--" ++ name) :: rest) (.flag f :: items)
  /-- `--name=value`, a setting. -/
  | longAttached {name v : String} {s : Setting} {rest : List String} {items : List Item} :
      Opt.ofLong? name = some (.setting s) → Lexes rest items →
      Lexes (("--" ++ name ++ "=" ++ v) :: rest) (.setting s v :: items)
  /-- `--name value`: the next word is the value, whatever it looks like. -/
  | longNext {name v : String} {s : Setting} {rest : List String} {items : List Item} :
      Opt.ofLong? name = some (.setting s) → Lexes rest items →
      Lexes (("--" ++ name) :: v :: rest) (.setting s v :: items)
  /-- `-abc`: short flags only. -/
  | shortFlags {w : String} {fs : List Char} {flags : List Item} {rest : List String} {items : List Item} :
      w.toList = '-' :: fs → fs ≠ [] → ShortFlags fs flags → Lexes rest items →
      Lexes (w :: rest) (flags ++ items)
  /-- `-abcvalue` or `-abc=value`: short flags, then a setting that takes the
      rest of the word. -/
  | shortAttached {w : String} {fs v : List Char} {c : Char} {s : Setting} {flags : List Item}
      {rest : List String} {items : List Item} :
      w.toList = '-' :: (fs ++ c :: v) → v ≠ [] → ShortFlags fs flags → Opt.ofShort? c = some (.setting s) →
      Lexes rest items → Lexes (w :: rest) (flags ++ .setting s (attachedValue v) :: items)
  /-- `-abc value`: short flags, then a setting that ends the word and takes
      the next one, whatever it looks like. -/
  | shortNext {w v : String} {fs : List Char} {c : Char} {s : Setting} {flags : List Item}
      {rest : List String} {items : List Item} :
      w.toList = '-' :: (fs ++ [c]) → ShortFlags fs flags → Opt.ofShort? c = some (.setting s) →
      Lexes rest items → Lexes (w :: v :: rest) (flags ++ .setting s v :: items)

/-! ### Short clusters -/

section Cluster

variable {first : Bool} {last c : Char} {next? : Option String} {a : Args}

theorem readCluster_flag {f : Flag} (hc : Opt.ofShort? c = some (.flag f)) (more : List Char) :
    readCluster first last next? (c :: more) a = readCluster false c next? more (a.raise f) := by
  simp [readCluster, hc, (ne_of_ofShort? hc).1]

theorem readCluster_attached {s : Setting} (hc : Opt.ofShort? c = some (.setting s)) {more : List Char}
    (hmore : more ≠ []) :
    readCluster first last next? (c :: more) a = (a.assign s (attachedValue more)).map fun a' => (a', false) := by
  cases more with
  | nil => exact absurd rfl hmore
  | cons d v =>
    by_cases hd : d = '='
    · subst hd
      simp [readCluster, hc, (ne_of_ofShort? hc).1, attachedValue]
    · simp [readCluster, hc, (ne_of_ofShort? hc).1, attachedValue, hd]

theorem readCluster_next {s : Setting} (hc : Opt.ofShort? c = some (.setting s)) (v : String) :
    readCluster first last (some v) [c] a = (a.assign s v).map fun a' => (a', true) := by
  simp [readCluster, hc, (ne_of_ofShort? hc).1]

theorem readCluster_missing {s : Setting} (hc : Opt.ofShort? c = some (.setting s)) :
    readCluster first last none [c] a = .error (.missingValue (shortName c)) := by
  simp [readCluster, hc, (ne_of_ofShort? hc).1]

/-- At a setting letter, reading the cluster does not depend on what came
    before in it. -/
theorem readCluster_setting {s : Setting} (hc : Opt.ofShort? c = some (.setting s)) (more : List Char)
    (first' : Bool) (last' : Char) :
    readCluster first last next? (c :: more) a = readCluster first' last' next? (c :: more) a := by
  simp [readCluster, hc, (ne_of_ofShort? hc).1]

variable {fs : List Char} {flags : List Item}

/-- A run of flags is read as those flags. -/
theorem readCluster_flags (h : ShortFlags fs flags) :
    readCluster first last next? fs a = .ok (flags.foldl Args.record a, false) := by
  induction h generalizing first last a with
  | nil => rfl
  | cons hc _ ih => rw [readCluster_flag hc, ih]; rfl

/-- A run of flags before a setting letter is read as those flags. -/
theorem readCluster_flags_setting (h : ShortFlags fs flags) {s : Setting}
    (hc : Opt.ofShort? c = some (.setting s)) (more : List Char) :
    readCluster first last next? (fs ++ c :: more) a =
      readCluster true c next? (c :: more) (flags.foldl Args.record a) := by
  induction h generalizing first last a with
  | nil => exact readCluster_setting hc more true c
  | cons hf _ ih => rw [List.cons_append, readCluster_flag hf, ih]; rfl

end Cluster

theorem ShortFlags.titlesFilled {fs : List Char} {flags : List Item} (h : ShortFlags fs flags) :
    TitlesFilled flags := by
  induction h with
  | nil => intro v hv; cases hv
  | cons _ _ ih => exact titlesFilled_cons.2 ⟨fun v hv => (by cases hv), ih⟩

theorem ShortFlags.foldlM_put {fs : List Char} {flags : List Item} (h : ShortFlags fs flags) (a : Args) :
    flags.foldlM Args.put a = .ok (flags.foldl Args.record a) :=
  foldlM_put_eq_ok_iff.2 ⟨h.titlesFilled, rfl⟩

/-! ### Reading words -/

/-- A word starting with one dash is read as a cluster; a setting that ends
    the cluster takes the next word. -/
theorem readOptions_cluster {w : String} {c : Char} {more : List Char} (hw : w.toList = '-' :: c :: more)
    (hc : c ≠ '-') (rest : List String) (a : Args) :
    readOptions (w :: rest) a = readCluster true c rest.head? (c :: more) a >>= fun r =>
      if r.2 then readOptions rest.tail r.1 else readOptions rest r.1 := by
  cases rest with
  | nil =>
    rcases hr : readCluster true c none (c :: more) a with e | ⟨a', _ | _⟩ <;>
      simp [readOptions, hw, hr, bind, Except.bind]
  | cons v rest =>
    rcases hr : readCluster true c (some v) (c :: more) a with e | ⟨a', _ | _⟩ <;>
      simp [readOptions, hw, hr, bind, Except.bind]

/-- A long flag is read as that flag. -/
theorem readOptions_longFlag {name : String} {f : Flag} (hn : Opt.ofLong? name = some (.flag f))
    (rest : List String) (a : Args) :
    readOptions (("--" ++ name) :: rest) a = readOptions rest (a.raise f) := by
  simp [readOptions, splitLong_of_not_mem (eq_not_mem_of_ofLong? hn), hn]

/-- A long setting with its value attached takes that value. -/
theorem readOptions_longAttached {name v : String} {s : Setting} (hn : Opt.ofLong? name = some (.setting s))
    (rest : List String) (a : Args) :
    readOptions (("--" ++ name ++ "=" ++ v) :: rest) a = a.assign s v >>= fun a' => readOptions rest a' := by
  cases ha : a.assign s v <;>
    simp [readOptions, splitLong_append (eq_not_mem_of_ofLong? hn), hn, ha, bind,
      Except.bind]

/-- A long setting without a value attached takes the next word. -/
theorem readOptions_longNext {name v : String} {s : Setting} (hn : Opt.ofLong? name = some (.setting s))
    (rest : List String) (a : Args) :
    readOptions (("--" ++ name) :: v :: rest) a = a.assign s v >>= fun a' => readOptions rest a' := by
  cases ha : a.assign s v <;>
    simp [readOptions, splitLong_of_not_mem (eq_not_mem_of_ofLong? hn), hn, ha, bind, Except.bind]

/-- A cluster of known short letters does not start with a second dash. -/
theorem ShortFlags.append_cons {fs : List Char} {flags : List Item} {c : Char} {o : Opt}
    (h : ShortFlags fs flags) (hc : Opt.ofShort? c = some o) (more : List Char) :
    ∃ d ds, fs ++ c :: more = d :: ds ∧ d ≠ '-' := by
  cases h with
  | nil => exact ⟨c, more, rfl, (ne_of_ofShort? hc).2⟩
  | cons hf _ => exact ⟨_, _, rfl, (ne_of_ofShort? hf).2⟩

/-! ### Words that follow the grammar -/

/-- Words that follow the grammar are read option after option, and what
    comes after them is read from where they leave off. -/
theorem readOptions_append_of_lexes {pre : List String} {items : List Item} (h : Lexes pre items)
    (post : List String) (a : Args) :
    readOptions (pre ++ post) a = items.foldlM Args.put a >>= fun a' => readOptions post a' := by
  induction h generalizing a with
  | nil => simp [pure, Except.pure, bind, Except.bind]
  | longFlag hn _ ih =>
    rw [List.cons_append, readOptions_longFlag hn, ih, List.foldlM_cons]
    rfl
  | longAttached hn _ ih =>
    rw [List.cons_append, readOptions_longAttached hn, List.foldlM_cons, bind_assoc]
    simp only [ih]
    rfl
  | longNext hn _ ih =>
    rw [List.cons_append, List.cons_append, readOptions_longNext hn, List.foldlM_cons, bind_assoc]
    simp only [ih]
    rfl
  | @shortFlags w fs flags rest items hw hne hfs _ ih =>
    obtain ⟨d, ds, rfl⟩ := List.exists_cons_of_ne_nil hne
    have hd : d ≠ '-' := by
      cases hfs with
      | cons hf _ => exact (ne_of_ofShort? hf).2
    rw [List.cons_append, readOptions_cluster hw hd, readCluster_flags hfs, List.foldlM_append,
      hfs.foldlM_put]
    exact ih _
  | @shortAttached w fs v c s flags rest items hw hv hfs hc _ ih =>
    obtain ⟨d, ds, hds, hd⟩ := hfs.append_cons hc v
    rw [hds] at hw
    rw [List.cons_append, readOptions_cluster hw hd, ← hds, readCluster_flags_setting hfs hc,
      readCluster_attached hc hv, List.foldlM_append, hfs.foldlM_put]
    cases hb : (flags.foldl Args.record a).assign s (attachedValue v) with
    | error e => simp [hb, Args.put, List.foldlM_cons, Except.map, bind, Except.bind]
    | ok b => simp [hb, Args.put, List.foldlM_cons, Except.map, bind, Except.bind, ih]
  | @shortNext w v fs c s flags rest items hw hfs hc _ ih =>
    obtain ⟨d, ds, hds, hd⟩ := hfs.append_cons hc []
    rw [hds] at hw
    rw [List.cons_append, List.cons_append, readOptions_cluster hw hd, ← hds, readCluster_flags_setting hfs hc,
      List.head?_cons, readCluster_next hc, List.foldlM_append, hfs.foldlM_put]
    cases hb : (flags.foldl Args.record a).assign s v with
    | error e => simp [hb, Args.put, List.foldlM_cons, Except.map, bind, Except.bind]
    | ok b => simp [hb, Args.put, List.foldlM_cons, Except.map, bind, Except.bind, ih]

/-! ### Words read successfully follow the grammar -/

theorem splitLong_eq_none {body : List Char} {name : String} (h : splitLong body = (name, none)) :
    body = name.toList := by
  unfold splitLong at h
  rw [List.span_eq_takeWhile_dropWhile] at h
  cases hd : body.dropWhile (· ≠ '=') with
  | nil =>
    rw [hd] at h
    cases h
    have hsplit := List.takeWhile_append_dropWhile (p := (· ≠ '=')) (l := body)
    rw [hd, List.append_nil] at hsplit
    rw [String.toList_ofList, hsplit]
  | cons x value =>
    rw [hd] at h
    cases h

theorem splitLong_eq_some {body : List Char} {name v : String} (h : splitLong body = (name, some v)) :
    body = name.toList ++ '=' :: v.toList := by
  unfold splitLong at h
  rw [List.span_eq_takeWhile_dropWhile] at h
  cases hd : body.dropWhile (· ≠ '=') with
  | nil =>
    rw [hd] at h
    cases h
  | cons x value =>
    rw [hd] at h
    cases h
    -- the first character not taken is the `=` itself
    have hx : x = '=' := by
      have hne : body.dropWhile (· ≠ '=') ≠ [] := by rw [hd]; exact List.cons_ne_nil x value
      have hhead := List.head_dropWhile_not (· ≠ '=') hne
      simp only [hd, List.head_cons] at hhead
      simpa using hhead
    subst hx
    have hsplit := List.takeWhile_append_dropWhile (p := (· ≠ '=')) (l := body)
    rw [hd] at hsplit
    rw [String.toList_ofList, String.toList_ofList, hsplit]

theorem eq_long_of_toList {w name : String} (h : w.toList = '-' :: '-' :: name.toList) : w = "--" ++ name := by
  rw [← String.toList_inj, h]
  simp

theorem readCluster_unknown {first : Bool} {last c : Char} {next? : Option String} {a : Args}
    (hc : Opt.ofShort? c = none) (more : List Char) :
    ∃ e, readCluster first last next? (c :: more) a = .error e := by
  simp only [readCluster, hc]
  split <;> exact ⟨_, rfl⟩

/-- What a cluster read successfully is made of: flags, then possibly a
    setting that takes the rest of the word or the next word. -/
theorem readCluster_eq_ok {first : Bool} {last : Char} {next? : Option String} {cs : List Char}
    {a a' : Args} {taken : Bool} (h : readCluster first last next? cs a = .ok (a', taken)) :
    ∃ fs flags, ShortFlags fs flags ∧
      ((cs = fs ∧ taken = false ∧ a' = flags.foldl Args.record a) ∨
       (∃ c v s, cs = fs ++ c :: v ∧ v ≠ [] ∧ Opt.ofShort? c = some (.setting s) ∧ taken = false ∧
          (flags.foldl Args.record a).assign s (attachedValue v) = .ok a') ∨
       (∃ c s w, cs = fs ++ [c] ∧ Opt.ofShort? c = some (.setting s) ∧ next? = some w ∧ taken = true ∧
          (flags.foldl Args.record a).assign s w = .ok a')) := by
  induction cs generalizing first last a with
  | nil =>
    cases h
    exact ⟨[], [], .nil, .inl ⟨rfl, rfl, rfl⟩⟩
  | cons c more ih =>
    cases hc : Opt.ofShort? c with
    | none =>
      obtain ⟨e, he⟩ : ∃ e, readCluster first last next? (c :: more) a = .error e := readCluster_unknown hc more
      rw [he] at h
      cases h
    | some o =>
      cases o with
      | flag f =>
        rw [readCluster_flag hc] at h
        obtain ⟨fs, flags, hfs, hcase⟩ := ih h
        refine ⟨c :: fs, .flag f :: flags, .cons hc hfs, ?_⟩
        rcases hcase with ⟨rfl, rfl, rfl⟩ | ⟨c', v, s, rfl, hv, hc', rfl, hb⟩ |
          ⟨c', s, w, rfl, hc', rfl, rfl, hb⟩
        · exact .inl ⟨rfl, rfl, rfl⟩
        · exact .inr (.inl ⟨c', v, s, rfl, hv, hc', rfl, hb⟩)
        · exact .inr (.inr ⟨c', s, w, rfl, hc', rfl, rfl, hb⟩)
      | setting s =>
        cases more with
        | nil =>
          cases next? with
          | none =>
            rw [readCluster_missing hc] at h
            cases h
          | some w =>
            rw [readCluster_next hc] at h
            cases hb : a.assign s w with
            | error e => simp [hb, Except.map] at h
            | ok b =>
              simp only [hb, Except.map, Except.ok.injEq, Prod.mk.injEq] at h
              obtain ⟨rfl, rfl⟩ := h
              exact ⟨[], [], .nil, .inr (.inr ⟨c, s, w, rfl, hc, rfl, rfl, hb⟩)⟩
        | cons d v =>
          rw [readCluster_attached hc (List.cons_ne_nil d v)] at h
          cases hb : a.assign s (attachedValue (d :: v)) with
          | error e => simp [hb, Except.map] at h
          | ok b =>
            simp only [hb, Except.map, Except.ok.injEq, Prod.mk.injEq] at h
            obtain ⟨rfl, rfl⟩ := h
            exact ⟨[], [], .nil, .inr (.inl ⟨c, d :: v, s, rfl, List.cons_ne_nil d v, hc, rfl, hb⟩)⟩

/-- Words read successfully follow the grammar, and are read option after
    option. -/
theorem lexes_of_readOptions (words : List String) (a : Args) :
    ∀ a', readOptions words a = .ok a' → ∃ items, Lexes words items ∧ items.foldlM Args.put a = .ok a' := by
  fun_induction readOptions words a with
  | case1 a =>
    intro a' h
    cases h
    exact ⟨[], .nil, rfl⟩
  | case2 => intro a' h; cases h
  | case3 => intro a' h; cases h
  | case4 word rest a body hw name f hn hs ih =>
    intro a' h
    obtain ⟨items, hl, hf⟩ := ih a' h
    obtain rfl : word = "--" ++ name := eq_long_of_toList (by rw [hw, splitLong_eq_none hs])
    exact ⟨.flag f :: items, .longFlag hn hl, by rw [List.foldlM_cons]; exact hf⟩
  | case5 word rest a body hw name s v hn a₁ hassign hs ih =>
    intro a' h
    obtain ⟨items, hl, hf⟩ := ih a' h
    obtain rfl : word = "--" ++ name ++ "=" ++ v := by
      rw [← String.toList_inj, hw, splitLong_eq_some hs]
      simp
    exact ⟨.setting s v :: items, .longAttached hn hl, foldlM_put_setting hassign hf⟩
  | case6 => intro a' h; cases h
  | case7 word a body hw name s hn v rest' a₁ hassign hs ih =>
    intro a' h
    obtain ⟨items, hl, hf⟩ := ih a' h
    obtain rfl : word = "--" ++ name := eq_long_of_toList (by rw [hw, splitLong_eq_none hs])
    exact ⟨.setting s v :: items, .longNext hn hl, foldlM_put_setting hassign hf⟩
  | case8 => intro a' h; cases h
  | case9 => intro a' h; cases h
  | case10 => intro a' h; cases h
  | case11 word rest a c more _ hw a₁ hr ih =>
    intro a' h
    obtain ⟨items, hl, hf⟩ := ih a' h
    obtain ⟨fs, flags, hfs, hcase⟩ := readCluster_eq_ok hr
    rcases hcase with ⟨hcs, -, rfl⟩ | ⟨c', v, s, hcs, hv, hc', -, hb⟩ | ⟨_, _, _, _, _, _, hfalse, _⟩
    · refine ⟨flags ++ items, .shortFlags (by rw [hw, hcs]) (by rw [← hcs]; exact List.cons_ne_nil c more)
        hfs hl, ?_⟩
      rw [List.foldlM_append, hfs.foldlM_put]
      exact hf
    · refine ⟨flags ++ .setting s (attachedValue v) :: items, .shortAttached (by rw [hw, hcs]) hv hfs hc' hl, ?_⟩
      rw [List.foldlM_append, hfs.foldlM_put]
      exact foldlM_put_setting hb hf
    · cases hfalse
  | case12 word a c more _ hw a₁ v rest' hr ih =>
    intro a' h
    obtain ⟨items, hl, hf⟩ := ih a' h
    obtain ⟨fs, flags, hfs, hcase⟩ := readCluster_eq_ok hr
    rcases hcase with ⟨-, hfalse, -⟩ | ⟨_, _, _, _, _, _, hfalse, _⟩ | ⟨c', s, w, hcs, hc', hw', -, hb⟩
    · cases hfalse
    · cases hfalse
    · cases hw'
      refine ⟨flags ++ .setting s v :: items, .shortNext (by rw [hw, hcs]) hfs hc' hl, ?_⟩
      rw [List.foldlM_append, hfs.foldlM_put]
      exact foldlM_put_setting hb hf
  | case13 word a c more _ hw a₁ hr _ =>
    intro a' _
    obtain ⟨fs, flags, hfs, hcase⟩ := readCluster_eq_ok hr
    rcases hcase with ⟨-, hfalse, -⟩ | ⟨_, _, _, _, _, _, hfalse, _⟩ | ⟨_, _, _, _, _, hnone, _, _⟩
    · cases hfalse
    · cases hfalse
    · cases hnone
  | case14 => intro a' h; cases h

/-! ### Words that are no options -/

/-- A word read where an option is expected that is no option: empty, a
    lone dash, or one that does not start with a dash. -/
def IsStray (w : String) : Prop := ∀ c more, w.toList ≠ '-' :: c :: more

theorem readOptions_stray {w : String} (h : IsStray w) (rest : List String) (a : Args) :
    readOptions (w :: rest) a = .error (.unexpectedArgument w) := by
  rw [readOptions]
  split
  · rename_i body hb
    exact absurd hb (h '-' body)
  · rename_i c more _ hb
    exact absurd hb (h c more)
  · rfl

/-- A word read where an option is expected that names no option of the
    host: a long name outside the table, with or without a value, or a short
    letter outside it after a run of flags (a `=` there gives a value to the
    last flag instead, and `--` starts a long option). -/
def NamesUnknown (w : String) : Prop :=
  (∃ name, '=' ∉ name.toList ∧ Opt.ofLong? name = none ∧ (w = "--" ++ name ∨ ∃ v, w = "--" ++ name ++ "=" ++ v)) ∨
  (∃ fs flags c more, w.toList = '-' :: (fs ++ c :: more) ∧ ShortFlags fs flags ∧ Opt.ofShort? c = none ∧
    (fs = [] → c ≠ '-') ∧ (fs ≠ [] → c ≠ '='))

/-- A word, last on the line, naming a setting that would take the next word
    as its value. -/
def LacksValue (w : String) : Prop :=
  (∃ name s, Opt.ofLong? name = some (.setting s) ∧ w = "--" ++ name) ∨
  (∃ fs flags c s, w.toList = '-' :: (fs ++ [c]) ∧ ShortFlags fs flags ∧ Opt.ofShort? c = some (.setting s))

theorem readCluster_unknown_eq {first : Bool} {last c : Char} {next? : Option String} {a : Args}
    (hc : Opt.ofShort? c = none) (hfirst : first = false → c ≠ '=') (more : List Char) :
    readCluster first last next? (c :: more) a = .error (.unknownOption (shortName c)) := by
  cases first
  · simp [readCluster, hc, hfirst rfl]
  · simp [readCluster, hc]

/-- After a run of flags, the cluster goes on as one that does not start
    there. -/
theorem readCluster_flags_cons {fs : List Char} {flags : List Item} (h : ShortFlags fs flags) (hne : fs ≠ [])
    (first : Bool) (last : Char) (next? : Option String) (tail : List Char) (a : Args) :
    ∃ last', readCluster first last next? (fs ++ tail) a =
      readCluster false last' next? tail (flags.foldl Args.record a) := by
  induction h generalizing first last a with
  | nil => exact absurd rfl hne
  | @cons c f cs items hc hcs ih =>
    rw [List.cons_append, readCluster_flag hc]
    cases hcs with
    | nil => exact ⟨c, rfl⟩
    | cons hc' hcs' => exact ih (List.cons_ne_nil _ _) false c (a.raise f)

theorem readOptions_unknown {w : String} (h : NamesUnknown w) (rest : List String) (a : Args) :
    ∃ o, readOptions (w :: rest) a = .error (.unknownOption o) := by
  rcases h with ⟨name, heq, hn, rfl | ⟨v, rfl⟩⟩ | ⟨fs, flags, c, more, hw, hfs, hc, hdash, heq⟩
  · exact ⟨longName name, by simp [readOptions, splitLong_of_not_mem heq, hn]⟩
  · exact ⟨longName name, by simp [readOptions, splitLong_append heq, hn]⟩
  · cases hfs with
    | nil =>
      rw [List.nil_append] at hw
      rw [readOptions_cluster hw (hdash rfl), readCluster_unknown_eq hc (fun h => by cases h)]
      exact ⟨_, rfl⟩
    | @cons d f ds dflags hd hds =>
      rw [List.cons_append] at hw
      obtain ⟨last', hrun⟩ := readCluster_flags_cons (.cons hd hds) (List.cons_ne_nil d ds) true d
        rest.head? (c :: more) a
      rw [readOptions_cluster hw (ne_of_ofShort? hd).2, ← List.cons_append, hrun,
        readCluster_unknown_eq hc (fun _ => heq (List.cons_ne_nil d ds))]
      exact ⟨_, rfl⟩

theorem readOptions_lacks {w : String} (h : LacksValue w) (a : Args) :
    ∃ o, readOptions [w] a = .error (.missingValue o) := by
  rcases h with ⟨name, s, hn, rfl⟩ | ⟨fs, flags, c, s, hw, hfs, hc⟩
  · exact ⟨longName name, by simp [readOptions, splitLong_of_not_mem (eq_not_mem_of_ofLong? hn), hn]⟩
  · obtain ⟨d, ds, hds, hd⟩ := hfs.append_cons hc []
    rw [hds] at hw
    rw [readOptions_cluster hw hd, ← hds, readCluster_flags_setting hfs hc, List.head?_nil,
      readCluster_missing hc]
    exact ⟨_, rfl⟩

/-! ### The words after `--` -/

namespace Args

theorem raise_args (a : Args) (f : Flag) (x : List String) :
    { a with args := x }.raise f = { a.raise f with args := x } := by
  cases f <;> rfl

theorem assign_args (a : Args) (s : Setting) (v : String) (x : List String) :
    { a with args := x }.assign s v = (a.assign s v).map fun b => { b with args := x } := by
  cases s <;> simp only [assign, Except.map]
  split <;> rfl

end Args

/-- Reading a cluster never looks at the words after `--`. -/
theorem readCluster_args (first : Bool) (last : Char) (next? : Option String) (cs : List Char) (a : Args)
    (x : List String) :
    readCluster first last next? cs { a with args := x } =
      (readCluster first last next? cs a).map fun r => ({ r.1 with args := x }, r.2) := by
  induction cs generalizing first last a with
  | nil => rfl
  | cons c more ih =>
    cases hc : Opt.ofShort? c with
    | none =>
      simp only [readCluster, hc]
      split <;> rfl
    | some o =>
      cases o with
      | flag f => rw [readCluster_flag hc, readCluster_flag hc, Args.raise_args, ih]
      | setting s =>
        cases more with
        | nil =>
          cases next? with
          | none => rw [readCluster_missing hc, readCluster_missing hc]; rfl
          | some w =>
            rw [readCluster_next hc, readCluster_next hc, Args.assign_args]
            cases a.assign s w <;> rfl
        | cons d v =>
          rw [readCluster_attached hc (List.cons_ne_nil d v), readCluster_attached hc (List.cons_ne_nil d v),
            Args.assign_args]
          cases a.assign s (attachedValue (d :: v)) <;> rfl

/-- Reading options never looks at the words after `--`. -/
theorem readOptions_args (words : List String) (a : Args) (x : List String) :
    readOptions words { a with args := x } = (readOptions words a).map fun b => { b with args := x } := by
  fun_induction readOptions words a with
  | case1 => rfl
  | case2 word rest a body hw name v? hs hn => simp [readOptions, hw, hs, hn, Except.map]
  | case3 word rest a body hw name f v hn hs => simp [readOptions, hw, hs, hn, Except.map]
  | case4 word rest a body hw name f hn hs ih => simp [readOptions, hw, hs, hn, Args.raise_args, ih]
  | case5 word rest a body hw name s v hn a₁ hassign hs ih =>
    simp [readOptions, hw, hs, hn, Args.assign_args, hassign, Except.map, ih]
  | case6 word rest a body hw name s v hn e hassign hs =>
    simp [readOptions, hw, hs, hn, Args.assign_args, hassign, Except.map]
  | case7 word a body hw name s hn v rest' a₁ hassign hs ih =>
    simp [readOptions, hw, hs, hn, Args.assign_args, hassign, Except.map, ih]
  | case8 word a body hw name s hn v rest' e hassign hs =>
    simp [readOptions, hw, hs, hn, Args.assign_args, hassign, Except.map]
  | case9 word a body hw name s hn hs => simp [readOptions, hw, hs, hn, Except.map]
  | case10 word rest a c more hc hw e hr =>
    rw [readOptions_cluster hw hc, readCluster_args, hr]
    rfl
  | case11 word rest a c more hc hw a₁ hr ih =>
    rw [readOptions_cluster hw hc, readCluster_args, hr]
    exact ih
  | case12 word a c more hc hw a₁ v rest' hr ih =>
    rw [List.head?_cons] at hr
    rw [readOptions_cluster hw hc, readCluster_args, List.head?_cons, hr]
    exact ih
  | case13 word a c more hc hw a₁ hr ih =>
    rw [readOptions_cluster hw hc, readCluster_args, hr]
    exact ih
  | case14 word rest a _ hshort => rw [readOptions_stray (fun c more => hshort c more)]; rfl

/-- The words are cut at the first `--`. -/
theorem splitTrailing_append {opts rest : List String} (hopts : "--" ∉ opts)
    (hrest : rest = [] ∨ rest.head? = some "--") : splitTrailing (opts ++ rest) = (opts, rest.tail) := by
  induction opts with
  | nil =>
    cases rest with
    | nil => rfl
    | cons r rest' =>
      have hr : r = "--" := by simpa using hrest.resolve_left (List.cons_ne_nil r rest')
      simp [splitTrailing, hr]
  | cons w opts ih =>
    have hw : w ≠ "--" := fun h => hopts (by simp [h])
    have hopts' : "--" ∉ opts := fun h => hopts (by simp [h])
    simp [splitTrailing, hw, ih hopts']

theorem parse_eq {words opts trailing : List String} (h : splitTrailing words = (opts, trailing)) :
    parse words = readOptions opts { args := trailing } := by
  simp [parse, h]

theorem Args.ext_of_get {a b : Args} (hget : ∀ s, a.get s = b.get s) (hflag : ∀ f, a.isRaised f = b.isRaised f)
    (hargs : a.args = b.args) : a = b := by
  cases a
  cases b
  simp only [Args.mk.injEq]
  exact ⟨hget .config, hget .executable, hget .workingDir, hget .title, hget .logLevel, hargs, hflag .version,
    hflag .help⟩

theorem splitTrailing_of_not_mem {opts : List String} (hopts : "--" ∉ opts) : splitTrailing opts = (opts, []) := by
  simpa using splitTrailing_append hopts (.inl rfl)

/-- Words before the first `--` stay on its side of the cut. -/
theorem splitTrailing_front {pre : List String} (hpre : "--" ∉ pre) (words : List String) :
    splitTrailing (pre ++ words) = (pre ++ (splitTrailing words).1, (splitTrailing words).2) := by
  induction pre with
  | nil => rfl
  | cons w pre ih =>
    have hw : w ≠ "--" := fun h => hpre (by simp [h])
    have hpre' : "--" ∉ pre := fun h => hpre (by simp [h])
    simp [splitTrailing, hw, ih hpre']

/-! ### The command line -/

section Parse

variable {opts : List String}

/-- The words after `--` are handed on and change nothing else. -/
theorem parse_append_trailing (hopts : "--" ∉ opts) {rest : List String}
    (hrest : rest = [] ∨ rest.head? = some "--") :
    parse (opts ++ rest) = (parse opts).map fun a => { a with args := rest.tail } := by
  rw [parse_eq (splitTrailing_append hopts hrest), parse_eq (splitTrailing_of_not_mem hopts)]
  exact readOptions_args opts {} rest.tail

/-- Option words parse exactly when they follow the grammar with no blank
    title; each setting then holds its last value, and a flag is raised
    exactly when it occurs. -/
theorem parse_eq_ok_iff (hopts : "--" ∉ opts) (a : Args) :
    parse opts = .ok a ↔ ∃ items, Lexes opts items ∧ TitlesFilled items ∧
      (∀ s, a.get s = lastValue s items) ∧ (a.help = true ↔ .flag .help ∈ items) ∧
      (a.version = true ↔ .flag .version ∈ items) ∧ a.args = [] := by
  have hnone : ∀ s, ({ args := [] } : Args).get s = none := fun s => by cases s <;> rfl
  rw [parse_eq (splitTrailing_of_not_mem hopts)]
  constructor
  · intro h
    obtain ⟨items, hl, hf⟩ := lexes_of_readOptions opts _ a h
    obtain ⟨ht, rfl⟩ := foldlM_put_eq_ok_iff.1 hf
    refine ⟨items, hl, ht, fun s => ?_, ?_, ?_, args_foldl_record items _⟩
    · rw [get_foldl_record, hnone, Option.or_none]
    · simpa [Args.isRaised] using isRaised_foldl_record items { args := [] } .help
    · simpa [Args.isRaised] using isRaised_foldl_record items { args := [] } .version
  · rintro ⟨items, hl, ht, hget, hhelp, hversion, hargs⟩
    have hread := readOptions_append_of_lexes hl [] { args := [] }
    rw [List.append_nil, foldlM_put_eq_ok_iff.2 ⟨ht, rfl⟩] at hread
    rw [hread]
    -- the arguments read agree with `a` field by field
    refine congrArg Except.ok (Args.ext_of_get (fun s => ?_) (fun f => ?_) (by simp [hargs]))
    · rw [get_foldl_record, hnone, Option.or_none, hget]
    · have hf := isRaised_foldl_record items { args := [] } f
      cases f
      · exact Bool.eq_iff_iff.2 (by simpa [Args.isRaised, hhelp] using hf)
      · exact Bool.eq_iff_iff.2 (by simpa [Args.isRaised, hversion] using hf)

end Parse

/-- A stray word, an unknown option, or a last setting without its value,
    read where an option is expected, makes the line fail. -/
theorem parse_fails_at_word {pre : List String} {items : List Item} {w : String} {post : List String}
    (hpre : "--" ∉ pre ++ [w]) (hl : Lexes pre items)
    (hw : IsStray w ∨ NamesUnknown w ∨ (post = [] ∧ LacksValue w)) :
    ∃ e, parse (pre ++ w :: post) = .error e := by
  rw [← List.singleton_append, ← List.append_assoc, parse_eq (splitTrailing_front hpre post),
    List.append_assoc, List.singleton_append, readOptions_append_of_lexes hl]
  cases items.foldlM Args.put { args := (splitTrailing post).2 } with
  | error e => exact ⟨e, rfl⟩
  | ok b =>
    rcases hw with hs | hu | ⟨rfl, hv⟩
    · exact ⟨_, readOptions_stray hs _ b⟩
    · obtain ⟨o, ho⟩ := readOptions_unknown hu (splitTrailing post).1 b
      exact ⟨_, ho⟩
    · obtain ⟨o, ho⟩ := readOptions_lacks hv b
      exact ⟨_, ho⟩

/-- A blank title read anywhere makes the line fail. -/
theorem parse_fails_of_blank_title {pre : List String} {items : List Item} (hpre : "--" ∉ pre)
    (hl : Lexes pre items) (ht : ¬TitlesFilled items) (post : List String) :
    ∃ e, parse (pre ++ post) = .error e := by
  rw [parse_eq (splitTrailing_front hpre post), readOptions_append_of_lexes hl]
  cases hf : items.foldlM Args.put { args := (splitTrailing post).2 } with
  | error e => exact ⟨e, rfl⟩
  | ok b => exact absurd (foldlM_put_eq_ok_iff.1 hf).1 ht

/-- Arguments read from option words that follow the grammar are those
    options recorded one after the other, over the words after `--`. -/
theorem parse_of_lexes {opts rest : List String} {items : List Item} {a : Args} (hopts : "--" ∉ opts)
    (hrest : rest = [] ∨ rest.head? = some "--") (hlex : Lexes opts items) (h : parse (opts ++ rest) = .ok a) :
    a = items.foldl Args.record { args := rest.tail } := by
  have hread := readOptions_append_of_lexes hlex [] { args := rest.tail }
  rw [List.append_nil, ← parse_eq (splitTrailing_append hopts hrest), h] at hread
  cases hf : items.foldlM Args.put { args := rest.tail } with
  | error e =>
    rw [hf] at hread
    cases hread
  | ok b =>
    rw [hf] at hread
    cases hread
    exact (foldlM_put_eq_ok_iff.1 hf).2

/-- How the command line is read. The words after the first `--` are handed
    on untouched and change nothing else. The option words parse exactly when
    they follow the grammar with no blank title, and then each setting holds
    the value of its last occurrence and a flag is raised exactly when it
    occurs. A stray word, an unknown option or a setting left without its
    value where an option is expected, and a blank title anywhere, make the
    whole line fail. -/
theorem parse_reads_option_grammar :
    (∀ opts rest, "--" ∉ opts → (rest = [] ∨ rest.head? = some "--") →
      parse (opts ++ rest) = (parse opts).map fun a => { a with args := rest.tail }) ∧
    (∀ opts a, "--" ∉ opts →
      (parse opts = .ok a ↔ ∃ items, Lexes opts items ∧ TitlesFilled items ∧
        (∀ s, a.get s = lastValue s items) ∧ (a.help = true ↔ .flag .help ∈ items) ∧
        (a.version = true ↔ .flag .version ∈ items) ∧ a.args = [])) ∧
    (∀ pre items w post, "--" ∉ pre ++ [w] → Lexes pre items →
      IsStray w ∨ NamesUnknown w ∨ (post = [] ∧ LacksValue w) → ∃ e, parse (pre ++ w :: post) = .error e) ∧
    (∀ pre items post, "--" ∉ pre → Lexes pre items → ¬TitlesFilled items →
      ∃ e, parse (pre ++ post) = .error e) :=
  ⟨fun _ _ hopts hrest => parse_append_trailing hopts hrest,
    fun _ a hopts => parse_eq_ok_iff hopts a,
    fun _ _ _ _ hpre hl hw => parse_fails_at_word hpre hl hw,
    fun _ _ post hpre hl ht => parse_fails_of_blank_title hpre hl ht post⟩

/-- The console's own arguments after a program and its options. -/
theorem trailing_words_follow_options :
    ("--" ∉ ["-e", "python3"] ∧ (["--", "-i", "--"] = [] ∨ ["--", "-i", "--"].head? = some "--")) ∧
    parse (["-e", "python3"] ++ ["--", "-i", "--"]) =
      (parse ["-e", "python3"]).map fun a => { a with args := ["-i", "--"] } :=
  ⟨⟨by decide, .inr rfl⟩, parse_reads_option_grammar.1 _ _ (by decide) (.inr rfl)⟩

end ReplHost.Cli
