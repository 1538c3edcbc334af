import ReplHost.Output.Prompt
import Mathlib.Data.List.Induction

/-! # Cleaning output read by read

  The prompt tracker sees the console's output one read at a time and keeps
  two bits between reads: whether a submitted line is being evaluated, and
  whether its echo is gone. Within one read it drops carriage returns, then
  the echo up to the first line feed while one is awaited, then a prompt
  standing as the last line.

  So where the output is cut into reads matters only inside a last line: a
  read that ends a line (carriage returns aside), or one that falls inside
  an echo still awaited, can be joined to the next without changing what is
  shown or the state left behind (`process_append`). A cut inside a prompt
  line is not harmless: `>` and `> ` read apart both pass through.
-/

namespace ReplHost

namespace PromptTracker

/-! ### The first line feed -/

@[simp] theorem afterNewline?_nil : afterNewline? [] = none := rfl

theorem afterNewline?_cons (c : Char) (cs : List Char) :
    afterNewline? (c :: cs) = if c = '\n' then some cs else afterNewline? cs := by
  by_cases hc : c = '\n' <;> simp [afterNewline?, hc]

theorem afterNewline?_eq_none_iff {cs : List Char} : afterNewline? cs = none ↔ '\n' ∉ cs := by
  induction cs with
  | nil => simp
  | cons c cs ih =>
    by_cases hc : c = '\n'
    · simp [afterNewline?_cons, hc]
    · simp [afterNewline?_cons, hc, ih, Ne.symm hc]

/-- Text with a line feed ends the echo within itself. -/
theorem afterNewline?_append_of_mem {a : List Char} (h : '\n' ∈ a) (b : List Char) :
    afterNewline? (a ++ b) = (afterNewline? a).map (· ++ b) := by
  induction a with
  | nil => simp at h
  | cons c a ih =>
    by_cases hc : c = '\n'
    · simp [afterNewline?_cons, hc]
    · have ha : '\n' ∈ a := by simpa [Ne.symm hc] using h
      simp [afterNewline?_cons, hc, ih ha]

/-- Text without a line feed leaves the end of the echo to what follows. -/
theorem afterNewline?_append_of_not_mem {a : List Char} (h : '\n' ∉ a) (b : List Char) :
    afterNewline? (a ++ b) = afterNewline? b := by
  induction a with
  | nil => rfl
  | cons c a ih =>
    have hc : c ≠ '\n' := fun hc => h (by simp [hc])
    have ha : '\n' ∉ a := fun ha => h (by simp [ha])
    simp [afterNewline?_cons, hc, ih ha]

/-- What follows the first line feed is what stands after some line feed. -/
theorem eq_of_afterNewline? {cs r : List Char} (h : afterNewline? cs = some r) :
    ∃ pre, cs = pre ++ '\n' :: r := by
  induction cs with
  | nil => simp at h
  | cons c cs ih =>
    by_cases hc : c = '\n'
    · simp only [afterNewline?_cons, hc, if_true, Option.some.injEq] at h
      exact ⟨[], by simp [hc, h]⟩
    · simp only [afterNewline?_cons, hc, if_false] at h
      obtain ⟨pre, rfl⟩ := ih h
      exact ⟨c :: pre, rfl⟩

/-! ### The last line -/

@[simp] theorem lastLine_nil : lastLine [] = [] := rfl

theorem lastLine_snoc (cs : List Char) (c : Char) :
    lastLine (cs ++ [c]) = if c = '\n' then [] else lastLine cs ++ [c] := by
  by_cases hc : c = '\n' <;> simp [lastLine, hc]

theorem lastLine_of_not_mem {cs : List Char} (h : '\n' ∉ cs) : lastLine cs = cs := by
  induction cs using List.reverseRecOn with
  | nil => rfl
  | append_singleton cs c ih =>
    have hc : c ≠ '\n' := fun hc => h (by simp [hc])
    have hcs : '\n' ∉ cs := fun hcs => h (by simp [hcs])
    simp [lastLine_snoc, hc, ih hcs]

theorem lastLine_append (a b : List Char) :
    lastLine (a ++ b) = if '\n' ∈ b then lastLine b else lastLine a ++ b := by
  induction b using List.reverseRecOn with
  | nil => simp
  | append_singleton b c ih =>
    rw [← List.append_assoc, lastLine_snoc, lastLine_snoc, ih]
    by_cases hc : c = '\n'
    · simp [hc]
    · by_cases hb : '\n' ∈ b <;> simp [hc, hb, Ne.symm hc]

/-- Text that ends a line does not reach into the last line of what follows. -/
theorem lastLine_append_of_ends {a : List Char} (h : lastLine a = []) (b : List Char) :
    lastLine (a ++ b) = lastLine b := by
  rw [lastLine_append, h]
  by_cases hb : '\n' ∈ b
  · simp [hb]
  · simp [hb, lastLine_of_not_mem hb]

theorem lastLine_eq_nil_iff {cs : List Char} :
    lastLine cs = [] ↔ cs = [] ∨ cs.getLast? = some '\n' := by
  induction cs using List.reverseRecOn with
  | nil => simp
  | append_singleton cs c _ =>
    by_cases hc : c = '\n' <;> simp [lastLine_snoc, hc]

/-- What follows the first line feed ends with the same line as the whole. -/
theorem lastLine_of_afterNewline? {cs r : List Char} (h : afterNewline? cs = some r) :
    lastLine cs = lastLine r := by
  obtain ⟨pre, rfl⟩ := eq_of_afterNewline? h
  have hend : lastLine (pre ++ ['\n']) = [] := by simp [lastLine_snoc]
  simpa using lastLine_append_of_ends hend r

theorem length_lastLine_le (cs : List Char) : (lastLine cs).length ≤ cs.length := by
  simpa [lastLine] using (List.takeWhile_prefix (· ≠ '\n') (l := cs.reverse)).length_le

/-- Text that ends a line passes through whole, ahead of what is kept of
    what follows. -/
theorem dropPrompt_append_of_ends {a : List Char} (h : lastLine a = []) (b : List Char) :
    dropPrompt (a ++ b) = ((dropPrompt b).1, a ++ (dropPrompt b).2) := by
  unfold dropPrompt
  rw [lastLine_append_of_ends h]
  split
  · rename_i hp
    have hlen : promptText.length ≤ b.length := hp ▸ length_lastLine_le b
    simp only [List.length_append, List.take_append, Prod.mk.injEq, true_and]
    rw [List.take_of_length_le (by omega)]
    congr 2
    omega
  · rfl

/-! ### One read -/

variable {t : PromptTracker}

/-- With no echo awaited, a read loses only a trailing prompt line, which
    ends the evaluation. -/
theorem process_of_not_awaiting (h : (t.executing && !t.echoSkipped) = false) (text : String) :
    t.process text =
      ((if (dropPrompt (text.toList.filter (· ≠ '\r'))).1 then { t with executing := false } else t),
        String.ofList (dropPrompt (text.toList.filter (· ≠ '\r'))).2) := by
  simp only [process, h]
  rfl

/-- While the echo is awaited, a read without a line feed is dropped whole. -/
theorem process_of_no_echo_end (h : (t.executing && !t.echoSkipped) = true) {text : String}
    (hnl : '\n' ∉ text.toList.filter (· ≠ '\r')) : t.process text = (t, "") := by
  simp only [process, h, if_true, afterNewline?_eq_none_iff.2 hnl, Option.map_none]

/-- While the echo is awaited, a read with a line feed keeps what follows
    the first one, less a trailing prompt line. -/
theorem process_of_echo_end (h : (t.executing && !t.echoSkipped) = true) {text : String} {rest : List Char}
    (hr : afterNewline? (text.toList.filter (· ≠ '\r')) = some rest) :
    t.process text =
      ((if (dropPrompt rest).1 then { t with echoSkipped := true, executing := false }
        else { t with echoSkipped := true }), String.ofList (dropPrompt rest).2) := by
  simp only [process, h, if_true, hr, Option.map_some]

/-! ### Two reads -/

theorem filter_append_toList (a b : String) :
    (a ++ b).toList.filter (· ≠ '\r') = a.toList.filter (· ≠ '\r') ++ b.toList.filter (· ≠ '\r') := by
  rw [String.toList_append, List.filter_append]

theorem dropPrompt_of_ends {cs : List Char} (h : lastLine cs = []) : dropPrompt cs = (false, cs) := by
  simp [dropPrompt, h, promptText]

/-- With no echo awaited, a read that ends a line passes through whole and
    changes nothing; the next read is cleaned as if it came alone. -/
theorem process_append_of_settled (h : (t.executing && !t.echoSkipped) = false) {a : String}
    (ha : lastLine (a.toList.filter (· ≠ '\r')) = []) (b : String) :
    t.process a = (t, String.ofList (a.toList.filter (· ≠ '\r'))) ∧
      t.process (a ++ b) = ((t.process b).1, String.ofList (a.toList.filter (· ≠ '\r')) ++ (t.process b).2) := by
  constructor
  · rw [process_of_not_awaiting h, dropPrompt_of_ends ha]
    rfl
  · rw [process_of_not_awaiting h, process_of_not_awaiting h, filter_append_toList,
      dropPrompt_append_of_ends ha, String.ofList_append]

/-- While the echo is awaited, a read that ends a line ends the echo at its
    first line feed and passes the rest through whole. -/
theorem process_append_of_echo_end (h : (t.executing && !t.echoSkipped) = true) {a : String}
    {rest : List Char} (hr : afterNewline? (a.toList.filter (· ≠ '\r')) = some rest)
    (ha : lastLine (a.toList.filter (· ≠ '\r')) = []) (b : String) :
    t.process a = ({ t with echoSkipped := true }, String.ofList rest) ∧
      t.process (a ++ b) = (({ t with echoSkipped := true }.process b).1,
        String.ofList rest ++ ({ t with echoSkipped := true }.process b).2) := by
  have hrest : lastLine rest = [] := (lastLine_of_afterNewline? hr) ▸ ha
  have hnl : '\n' ∈ a.toList.filter (· ≠ '\r') := by
    by_contra hn
    rw [afterNewline?_eq_none_iff.2 hn] at hr
    cases hr
  have hab : afterNewline? ((a ++ b).toList.filter (· ≠ '\r')) = some (rest ++ b.toList.filter (· ≠ '\r')) := by
    rw [filter_append_toList, afterNewline?_append_of_mem hnl, hr, Option.map_some]
  have hskip : ({ t with echoSkipped := true }.executing && !({ t with echoSkipped := true } : PromptTracker).echoSkipped) = false := by
    simp
  constructor
  · simp [process_of_echo_end h hr, dropPrompt_of_ends hrest]
  · rw [process_of_echo_end h hab, process_of_not_awaiting hskip, dropPrompt_append_of_ends hrest,
      String.ofList_append]

/-- While the echo is awaited, a read without a line feed is dropped whole,
    and what follows is cleaned as if it came alone. -/
theorem process_append_of_echo_pending (h : (t.executing && !t.echoSkipped) = true) {a : String}
    (hnl : '\n' ∉ a.toList.filter (· ≠ '\r')) (b : String) :
    t.process a = (t, "") ∧ t.process (a ++ b) = t.process b := by
  refine ⟨process_of_no_echo_end h hnl, ?_⟩
  simp only [process, h, if_true, filter_append_toList, afterNewline?_append_of_not_mem hnl]

end PromptTracker

/-- How the console's output is cut into reads changes nothing about what the
    tracker shows, nor the state it is left in, as long as a cut falls after a
    line feed (carriage returns aside) or inside an echo still awaited. -/
theorem process_append (t : PromptTracker) (a b : String)
    (h : (a.toList.filter (· ≠ '\r') = [] ∨ (a.toList.filter (· ≠ '\r')).getLast? = some '\n') ∨
      (t.executing = true ∧ t.echoSkipped = false ∧ '\n' ∉ a.toList)) :
    ((t.process a).1.process b).1 = (t.process (a ++ b)).1 ∧
      (t.process a).2 ++ ((t.process a).1.process b).2 = (t.process (a ++ b)).2 := by
  rcases h with hend | ⟨hex, hsk, hnl⟩
  · have ha : PromptTracker.lastLine (a.toList.filter (· ≠ '\r')) = [] := PromptTracker.lastLine_eq_nil_iff.2 hend
    cases hw : (t.executing && !t.echoSkipped)
    · obtain ⟨h₁, h₂⟩ := PromptTracker.process_append_of_settled hw ha b
      rw [h₁, h₂]
      exact ⟨rfl, rfl⟩
    · -- the echo is awaited: it ends in `a` or, when `a` is empty, not yet
      cases hr : PromptTracker.afterNewline? (a.toList.filter (· ≠ '\r')) with
      | none =>
        obtain ⟨h₁, h₂⟩ := PromptTracker.process_append_of_echo_pending hw
          (PromptTracker.afterNewline?_eq_none_iff.1 hr) b
        rw [h₁, h₂]
        simp
      | some rest =>
        obtain ⟨h₁, h₂⟩ := PromptTracker.process_append_of_echo_end hw hr ha b
        rw [h₁, h₂]
        exact ⟨rfl, rfl⟩
  · have hw : (t.executing && !t.echoSkipped) = true := by simp [hex, hsk]
    have hnl' : '\n' ∉ a.toList.filter (· ≠ '\r') := fun hm => hnl (List.mem_filter.1 hm).1
    obtain ⟨h₁, h₂⟩ := PromptTracker.process_append_of_echo_pending hw hnl' b
    rw [h₁, h₂]
    simp

/-- The echo and result of `let x = 5;` read apart from the prompt that
    follows. -/
theorem echo_split_before_prompt :
    (("let x = 5;\r\n".toList.filter (· ≠ '\r') = [] ∨
        ("let x = 5;\r\n".toList.filter (· ≠ '\r')).getLast? = some '\n') ∨
      (({} : PromptTracker).begin.executing = true ∧ ({} : PromptTracker).begin.echoSkipped = false ∧
        '\n' ∉ "let x = 5;\r\n".toList)) ∧
    ((({} : PromptTracker).begin.process "let x = 5;\r\n").1.process ">> ").1 =
        (({} : PromptTracker).begin.process ("let x = 5;\r\n" ++ ">> ")).1 ∧
    (({} : PromptTracker).begin.process "let x = 5;\r\n").2 ++
        ((({} : PromptTracker).begin.process "let x = 5;\r\n").1.process ">> ").2 =
      (({} : PromptTracker).begin.process ("let x = 5;\r\n" ++ ">> ")).2 := by
  have h : ("let x = 5;\r\n".toList.filter (· ≠ '\r') = [] ∨
        ("let x = 5;\r\n".toList.filter (· ≠ '\r')).getLast? = some '\n') ∨
      (({} : PromptTracker).begin.executing = true ∧ ({} : PromptTracker).begin.echoSkipped = false ∧
        '\n' ∉ "let x = 5;\r\n".toList) := .inl (.inr (by decide))
  exact ⟨h, process_append _ _ _ h⟩

/-- A cut inside a prompt line shows the prompt. -/
example : (({} : PromptTracker).process ">").2 ++ ((({} : PromptTracker).process ">").1.process "> ").2 ≠
    (({} : PromptTracker).process (">" ++ "> ")).2 := by
  decide

end ReplHost
