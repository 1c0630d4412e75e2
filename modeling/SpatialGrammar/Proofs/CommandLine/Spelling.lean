import Mathlib.Data.List.Basic
import SpatialGrammar.CommandLine.Arguments

/-!
# Two spellings of an option

An option and its value are two arguments, or one in which they are joined by an equals sign. The
reading of a joined argument takes away the beginning `--grammar=` or `--delimiter=` as often as it
is there, so it may take it away from the value, too. Main statement: `readArguments_joined`, a
joined value is read like a value by itself that lacks this beginning, and the two spellings of an
option mean the same exactly if its value does not begin so.
-/

namespace SpatialGrammar.CommandLine

section

variable {lead text : List Char}

lemma dropLead_append (lead text : List Char) :
    dropLead lead (lead ++ text) = dropLead lead text := by
  by_cases empty : lead = []
  · rw [empty, List.nil_append]
  · have here : lead ≠ [] ∧ lead.isPrefixOf (lead ++ text) = true :=
      ⟨empty, List.isPrefixOf_iff_prefix.2 (List.prefix_append lead text)⟩
    rw [dropLead, dif_pos here, List.drop_left]

lemma dropLead_eq_self (h : ¬ lead <+: text) : dropLead lead text = text := by
  rw [dropLead, dif_neg fun here => h (List.isPrefixOf_iff_prefix.1 here.2)]

/-- What is left does not have the beginning. -/
lemma not_isPrefix_dropLead (h : lead ≠ []) (text : List Char) : ¬ lead <+: dropLead lead text := by
  fun_induction dropLead lead text with
  | case1 text here _ ih => exact ih
  | case2 text here => exact fun leads => here ⟨h, List.isPrefixOf_iff_prefix.2 leads⟩

/-- Nothing but the beginning is taken away. -/
lemma exists_append_dropLead (lead text : List Char) :
    ∃ k, text = (List.replicate k lead).flatten ++ dropLead lead text := by
  fun_induction dropLead lead text with
  | case1 text here _ ih =>
    obtain ⟨k, eq⟩ := ih
    obtain ⟨tail, rfl⟩ := List.isPrefixOf_iff_prefix.1 here.2
    rw [List.drop_left] at eq ⊢
    exact ⟨k + 1, by rw [List.replicate_succ, List.flatten_cons, List.append_assoc, ← eq]⟩
  | case2 text => exact ⟨0, rfl⟩

lemma dropLead_eq_self_iff (h : lead ≠ []) : dropLead lead text = text ↔ ¬ lead <+: text :=
  ⟨fun same => same ▸ not_isPrefix_dropLead h text, dropLead_eq_self⟩

end

variable {o p : ValueOption} {value : String} {before after xs ys : List String} {s : Settings}

namespace ValueOption

/-- What stands before a value that is joined to its option. -/
def lead (o : ValueOption) : List Char := o.name.toList ++ ['=']

/-- An option and its value as one argument. -/
def joined (o : ValueOption) (value : String) : String := String.ofList (o.lead ++ value.toList)

/-- What is read of a value that is joined to its option. -/
def kept (o : ValueOption) (value : String) : String := String.ofList (dropLead o.lead value.toList)

lemma lead_ne_nil (o : ValueOption) : o.lead ≠ [] := by simp [lead]

lemma kept_eq_iff : o.kept value = value ↔ ¬ o.lead <+: value.toList := by
  rw [kept, ← dropLead_eq_self_iff o.lead_ne_nil, ← String.toList_inj, String.toList_ofList]

end ValueOption

/-- A joined argument belongs to its own option only. -/
lemma joinedValue?_joined :
    joinedValue? p (o.joined value) = if p = o then some (o.kept value) else none := by
  have foreign : p ≠ o → ¬ p.lead <+: o.lead ++ value.toList := by
    cases p <;> cases o <;> simp [ValueOption.lead, ValueOption.name]
  have read : joinedValue? p (o.joined value) =
      if p.lead.isPrefixOf (o.lead ++ value.toList) then
        some (String.ofList (dropLead p.lead (o.lead ++ value.toList))) else none := by
    rw [joinedValue?, ValueOption.joined, String.toList_ofList]
    rfl
  rw [read]
  by_cases own : p = o
  · subst own
    rw [if_pos rfl, if_pos (List.isPrefixOf_iff_prefix.2 (List.prefix_append ..)), dropLead_append,
      ValueOption.kept]
  · rw [if_neg own, if_neg fun leads => foreign own (List.isPrefixOf_iff_prefix.1 leads)]

lemma Argument.of_joined : Argument.of (o.joined value) = .assignment o (o.kept value) := by
  have sign : '=' ∈ (o.joined value).toList := by
    simp [ValueOption.joined, ValueOption.lead]
  unfold Argument.of
  split
  case h_13 =>
    rw [joinedValue?_joined, joinedValue?_joined]
    cases o <;> rfl
  -- no argument with a fixed meaning has an equals sign
  all_goals
    next fixed => exact absurd (fixed ▸ sign) (by decide)

lemma Argument.of_name : Argument.of o.name = .option o := by cases o <;> rfl

lemma Settings.read_joined :
    s.read (o.joined value :: after) = s.read (o.name :: o.kept value :: after) := by
  simp only [Settings.read, Argument.of_joined, Argument.of_name]

/-- Arguments after which an option may stand: each option among them has its value, and none of
them ends the options. -/
inductive Complete : List String → Prop
  | nil : Complete []
  | cons {argument rest} : (∀ o, Argument.of argument ≠ .option o) →
      Argument.of argument ≠ .endOfOptions → Complete rest → Complete (argument :: rest)
  | option {argument value rest o} : Argument.of argument = .option o → Complete rest →
      Complete (argument :: value :: rest)

/-- What is read alike is read alike after the same arguments. -/
lemma Settings.read_append (h : Complete before) (alike : ∀ s : Settings, s.read xs = s.read ys)
    (s : Settings) : s.read (before ++ xs) = s.read (before ++ ys) := by
  induction h generalizing s with
  | nil => exact alike s
  | @cons argument rest notOption notEnd _ ih =>
    rw [List.cons_append, List.cons_append, Settings.read, Settings.read]
    cases role : Argument.of argument with
    | option o => exact absurd role (notOption o)
    | endOfOptions => exact absurd role notEnd
    | help | version | unknownOption => rfl
    | colour | standardInput => exact ih _
    | assignment | file => exact bind_congr ih
  | option role _ ih =>
    simp only [List.cons_append, Settings.read, role]
    exact bind_congr ih

section misread

/-- A value that begins like a joined argument is no delimiter. -/
lemma readDelimiter_of_lead (h : ValueOption.delimiter.lead <+: value.toList) :
    readDelimiter value = .error (.invalidDelimiter value) := by
  have long : 1 < value.toList.length := Nat.lt_of_lt_of_le (by decide) h.length_le
  unfold readDelimiter
  split
  case h_3 =>
    split
    next c single =>
      rw [single] at long
      exact absurd long (Nat.lt_irrefl 1)
    next => rfl
  all_goals
    next => exact absurd h (by decide)

lemma eq_invalidDelimiter {e : UsageError} (h : readDelimiter value = .error e) :
    e = .invalidDelimiter value := by
  unfold readDelimiter at h
  split at h
  case h_3 =>
    split at h
    next => cases h
    next =>
      cases h
      rfl
  all_goals cases h

/-- A value that begins like a joined argument of its option is read like no other value. -/
lemma eq_of_readArguments {v : String} (h : o.lead <+: value.toList)
    (same : readArguments false ["--grammar", "g", o.name, v] =
      readArguments false ["--grammar", "g", o.name, value]) : v = value := by
  have read (v : String) : readArguments false ["--grammar", "g", o.name, v] =
      (Settings.assign ⟨some "g", none, none, false⟩ o v).bind Settings.request := by
    cases o <;> rfl
  rw [read, read] at same
  cases o with
  | grammar => simpa [Settings.assign, Settings.request, Except.bind] using same
  | delimiter =>
    cases e : readDelimiter v with
    | ok d =>
      simp [Settings.assign, Settings.request, readDelimiter_of_lead h, e, Except.bind, bind, pure,
        Except.pure] at same
    | error error =>
      simpa [Settings.assign, readDelimiter_of_lead h, e, eq_invalidDelimiter e, Except.bind,
        bind] using same

end misread

/-- A value that is joined to its option is read like a value by itself from which the beginning of
a joined argument has been taken away as often as it is there. So the two spellings of an option
mean the same, whatever stands before and after it, exactly if its value does not begin so. -/
theorem readArguments_joined (o : ValueOption) (value : String) :
    (∃ k, value.toList = (List.replicate k o.lead).flatten ++ (o.kept value).toList) ∧
    ¬ o.lead <+: (o.kept value).toList ∧
    (∀ terminal before after, Complete before →
      readArguments terminal (before ++ o.joined value :: after) =
        readArguments terminal (before ++ o.name :: o.kept value :: after)) ∧
    ((∀ terminal before after, Complete before →
      readArguments terminal (before ++ o.joined value :: after) =
        readArguments terminal (before ++ o.name :: value :: after)) ↔
      ¬ o.lead <+: value.toList) := by
  have alike : ∀ terminal before after, Complete before →
      readArguments terminal (before ++ o.joined value :: after) =
        readArguments terminal (before ++ o.name :: o.kept value :: after) :=
    fun _ _ _ h => Settings.read_append h (fun _ => Settings.read_joined) _
  refine ⟨?_, ?_, alike, fun same leads => ?_, fun free => ?_⟩
  · rw [ValueOption.kept, String.toList_ofList]
    exact exists_append_dropLead o.lead value.toList
  · rw [ValueOption.kept, String.toList_ofList]
    exact not_isPrefix_dropLead o.lead_ne_nil value.toList
  · have complete : Complete ["--grammar", "g"] := .option rfl .nil
    have read := same false ["--grammar", "g"] [] complete
    rw [alike false _ [] complete] at read
    exact ValueOption.kept_eq_iff.1 (eq_of_readArguments leads read) leads
  · rwa [ValueOption.kept_eq_iff.2 free] at alike

theorem readArguments_joined_semicolon :
    Complete ["--grammar", "g.yaml", "--color"] ∧
      readArguments false ["--grammar", "g.yaml", "--color", "--delimiter=;", "sheet.txt"] =
        readArguments false ["--grammar", "g.yaml", "--color", "--delimiter", ";", "sheet.txt"] := by
  have switch : Argument.of "--color" = .colour true := rfl
  have complete : Complete ["--grammar", "g.yaml", "--color"] :=
    .option rfl (.cons (by simp [switch]) (by simp [switch]) .nil)
  have free : ¬ ValueOption.delimiter.lead <+: ";".toList := by decide
  exact ⟨complete,
    (readArguments_joined .delimiter ";").2.2.2.2 free false _ ["sheet.txt"] complete⟩

/-- A text that is no delimiter by itself is read as the comma if it is joined to its option. -/
theorem readArguments_comma :
    readArguments false ["--grammar", "g.yaml", "--delimiter=--delimiter=,"] =
        .ok (.recognise ⟨"g.yaml", none, some ',', false⟩) ∧
      readArguments false ["--grammar", "g.yaml", "--delimiter", "--delimiter=,"] =
        .error (.invalidDelimiter "--delimiter=,") := by
  have role : Argument.of (ValueOption.delimiter.joined "--delimiter=,") =
      .assignment .delimiter "," := by
    rw [Argument.of_joined]
    cbv
  refine ⟨?_, rfl⟩
  have read : readArguments false ["--grammar", "g.yaml", "--delimiter=--delimiter=,"] =
      (Settings.mk (some "g.yaml") none none false).read
        [ValueOption.delimiter.joined "--delimiter=,"] := rfl
  rw [read, Settings.read, role]
  rfl

end SpatialGrammar.CommandLine
