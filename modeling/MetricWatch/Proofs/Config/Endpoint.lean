import Mathlib.Data.List.DropRight
import Mathlib.Data.List.TakeDrop
import MetricWatch.Config.Json
import MetricWatch.Proofs.Config.Construction

/-!
The endpoint that a configuration names. It is checked without the blanks around it and used with them,
and an address forgives fewer of them than the check does.
-/

namespace MetricWatch

section Trimmed

variable (p : Char → Bool)

/-- What is left of a text when both its ends are trimmed. -/
def trimmed (cs : List Char) : List Char := (cs.dropWhile p).rdropWhile p

theorem exists_append_trimmed (cs : List Char) :
    ∃ before after, cs = before ++ (trimmed p cs ++ after) ∧
      (∀ c ∈ before, p c = true) ∧ ∀ c ∈ after, p c = true := by
  refine ⟨cs.takeWhile p, (cs.dropWhile p).rtakeWhile p, ?_, fun c => List.mem_takeWhile_imp, ?_⟩
  · rw [trimmed, List.rdropWhile_append_rtakeWhile, List.takeWhile_append_dropWhile]
  · exact fun c => List.mem_rtakeWhile_imp

variable {p}

theorem rdropWhile_append_of_pos {after : List Char} (h : ∀ c ∈ after, p c = true) (cs : List Char) :
    (cs ++ after).rdropWhile p = cs.rdropWhile p := by
  rw [List.rdropWhile, List.reverse_append, List.dropWhile_append_of_pos, List.rdropWhile]
  exact fun c hc => h c (List.mem_reverse.1 hc)

theorem trimmed_append {before after : List Char} (hbefore : ∀ c ∈ before, p c = true)
    (hafter : ∀ c ∈ after, p c = true) (cs : List Char) :
    trimmed p (before ++ (cs ++ after)) = trimmed p cs := by
  rw [trimmed, trimmed, List.dropWhile_append_of_pos hbefore, List.dropWhile_append]
  split
  · rename_i hempty
    rw [List.dropWhile_eq_nil_iff.2 hafter, List.isEmpty_iff.1 hempty]
  · exact rdropWhile_append_of_pos hafter _

/-- Trimming stops at the first character that is not to be trimmed. -/
theorem head?_trimmed_append {before : List Char} (h : ∃ c ∈ before, p c = false) (cs : List Char) :
    ∃ c ∈ before, p c = false ∧ (trimmed p (before ++ cs)).head? = some c := by
  induction before with
  | nil => exact absurd h (by simp)
  | cons b before ih =>
      cases hb : p b with
      | true =>
          have hlater : ∃ c ∈ before, p c = false := by
            simpa [hb] using h
          obtain ⟨c, hc, hpc, hhead⟩ := ih hlater
          refine ⟨c, List.mem_cons_of_mem _ hc, hpc, ?_⟩
          rwa [trimmed, List.cons_append, List.dropWhile_cons_of_pos hb]
      | false =>
          refine ⟨b, List.mem_cons_self, hb, ?_⟩
          have hstop : ¬ p b = true := Bool.eq_false_iff.1 hb
          rw [trimmed, List.cons_append, List.dropWhile_cons_of_neg hstop]
          have hne : (b :: (before ++ cs)).rdropWhile p ≠ [] := by
            intro hnil
            exact hstop (List.rdropWhile_eq_nil_iff.1 hnil b List.mem_cons_self)
          obtain ⟨c, rest, hc⟩ := List.exists_cons_of_ne_nil hne
          have hbegins := List.rdropWhile_prefix p (b :: (before ++ cs))
          rw [hc] at hbegins ⊢
          rw [(List.cons_prefix_cons.1 hbegins).1, List.head?_cons]

end Trimmed

namespace Address

/-- The blanks beyond the margin are beyond the characters of a scheme as well. -/
theorem beyond_of_blank {c : Char} (hblank : Text.isBlank c = true) (hmargin : isMargin c = false) :
    0x85 ≤ c.toNat := by
  rw [isMargin, decide_eq_false_iff_not] at hmargin
  simp only [Text.isBlank, Bool.or_eq_true, Bool.and_eq_true, decide_eq_true_eq, beq_iff_eq] at hblank
  omega

theorem ne_of_beyond {c d : Char} (h : 0x85 ≤ c.toNat) (hd : d.toNat < 0x85) : c ≠ d := by
  rintro rfl
  omega

theorem not_allowed_of_beyond {c : Char} (h : 0x85 ≤ c.toNat) :
    (c.isAlphanum || c = '+' || c = '-' || c = '.') = false := by
  have hbelow (n : UInt32) (hn : n.toNat < 0x85) : ¬ c.val ≤ n := fun hle =>
    absurd (UInt32.le_iff_toNat_le.1 hle) (Nat.not_le_of_lt (Nat.lt_of_lt_of_le hn h))
  have hupper : c.isUpper = false := decide_eq_false fun hc => hbelow 90 (by decide) hc.2
  have hlower : c.isLower = false := by
    change (_ && decide (c.val ≤ 122)) = false
    rw [decide_eq_false (hbelow 122 (by decide)), Bool.and_false]
  have hdigit : c.isDigit = false := by
    change (_ && decide (c.val ≤ 57)) = false
    rw [decide_eq_false (hbelow 57 (by decide)), Bool.and_false]
  change (((c.isUpper || c.isLower) || c.isDigit) || c = '+' || c = '-' || c = '.') = false
  simp [hupper, hlower, hdigit, ne_of_beyond (d := '+') h (by decide),
    ne_of_beyond (d := '-') h (by decide), ne_of_beyond (d := '.') h (by decide)]

theorem scheme?_of_beyond {c : Char} (h : 0x85 ≤ c.toNat) (rest : List Char) :
    scheme? (c :: rest) = none := by
  have hcolon : c ≠ ':' := ne_of_beyond h (by decide)
  have hbreak : isBreak c = false := by
    simp [isBreak, ne_of_beyond (d := '\t') h (by decide), ne_of_beyond (d := '\n') h (by decide),
      ne_of_beyond (d := '\r') h (by decide)]
  have hsplit : ∃ before, (splitMark ':' (c :: rest)).1 = c :: before := by
    rw [splitMark, List.span_eq_takeWhile_dropWhile, List.takeWhile_cons_of_pos (by simpa using hcolon)]
    split
    · rename_i heq
      exact ⟨_, (Prod.mk.inj heq).1.symm⟩
    · rename_i heq
      exact ⟨_, (Prod.mk.inj heq).1.symm⟩
  obtain ⟨before, hbefore⟩ := hsplit
  rw [scheme?]
  split
  · rfl
  · rename_i scheme after heq
    rw [heq] at hbefore
    obtain rfl : scheme = c :: before := hbefore
    simp [unbroken, hbreak, not_allowed_of_beyond h]

/-- A text that begins with a blank that an address does not forgive names none. -/
theorem parse?_eq_none_of_head {s : String} {c : Char} (h : (trim s.toList).head? = some c)
    (hblank : Text.isBlank c = true) (hmargin : isMargin c = false) : parse? s = none := by
  obtain ⟨rest, hrest⟩ := List.head?_eq_some_iff.1 h
  rw [parse?, hrest, scheme?_of_beyond (beyond_of_blank hblank hmargin)]
  rfl

/-- What an address forgives around a text does not count. -/
theorem parse?_of_margin {s t : String} {before after : List Char}
    (h : s.toList = before ++ (t.toList ++ after)) (hbefore : ∀ c ∈ before, isMargin c = true)
    (hafter : ∀ c ∈ after, isMargin c = true) : parse? s = parse? t := by
  have htrim : trim s.toList = trim t.toList := by
    rw [h]
    exact trimmed_append hbefore hafter _
  rw [parse?, parse?, htrim]

end Address

namespace Config

theorem not_hasScheme_of_blank {s : String} {c : Char} (h : s.toList.head? = some c)
    (hblank : Text.isBlank c = true) : hasScheme s = false := by
  obtain ⟨rest, hrest⟩ := List.head?_eq_some_iff.1 h
  have hc : ('h' == c) = false := by
    rw [beq_eq_false_iff_ne]
    rintro rfl
    exact absurd hblank (by decide)
  rw [hasScheme, hrest]
  simp [schemes, List.isPrefixOf, hc]

theorem hasScheme_of_prefix {s t : String} (hbegins : s.toList <+: t.toList)
    (h : hasScheme s = true) : hasScheme t = true := by
  obtain ⟨scheme, hscheme, hs⟩ := List.any_eq_true.1 h
  refine List.any_eq_true.2 ⟨scheme, hscheme, ?_⟩
  exact List.isPrefixOf_iff_prefix.2 ((List.isPrefixOf_iff_prefix.1 hs).trans hbegins)

/-- What the blanks before and after its endpoint do to a configuration. The bridge begins with the scheme
that was checked just when none stand before it. Those that an address forgives are as good as none, and
any other before the scheme makes every read fail. -/
structure Surrounded (c : Config) (before after : List Char) : Prop where
  split : c.endpoint.toList = before ++ ((Text.trim c.endpoint).toList ++ after)
  blank : ∀ b ∈ before ++ after, Text.isBlank b = true
  checked : hasScheme (Text.trim c.endpoint) = true
  begins : hasScheme (Bridge.ofConfig c).endpoint = true ↔ before = []
  forgiven : (∀ b ∈ before ++ after, Address.isMargin b = true) →
    (Bridge.ofConfig c).address = { Bridge.ofConfig c with endpoint := Text.trim c.endpoint }.address
  unread : (∃ b ∈ before, Address.isMargin b = false) → ∀ exchange counter path,
    (Bridge.ofConfig c).read exchange counter path = .error (.transport .noAddress)

theorem hasScheme_of_problem? {c : Config} (h : c.problem? = none) :
    hasScheme (Text.trim c.endpoint) = true := by
  obtain ⟨-, h⟩ := of_ite_some_eq_none h
  obtain ⟨hscheme, -⟩ := of_ite_some_eq_none h
  simpa using hscheme

theorem exists_surrounded {c : Config} (h : c.problem? = none) :
    ∃ before after, c.Surrounded before after := by
  obtain ⟨before, after, hsplit, hbefore, hafter⟩ :=
    exists_append_trimmed Text.isBlank c.endpoint.toList
  have htrim : (Text.trim c.endpoint).toList = trimmed Text.isBlank c.endpoint.toList := by
    rw [Text.trim, String.toList_ofList]
    rfl
  rw [← htrim] at hsplit
  have hchecked := hasScheme_of_problem? h
  refine ⟨before, after, hsplit, ?_, hchecked, ?_, ?_, ?_⟩
  · intro b hb
    rcases List.mem_append.1 hb with hb | hb
    · exact hbefore b hb
    · exact hafter b hb
  · constructor
    · intro hscheme
      cases before with
      | nil => rfl
      | cons b before =>
          have hhead : (Bridge.ofConfig c).endpoint.toList.head? = some b := congrArg List.head? hsplit
          rw [not_hasScheme_of_blank hhead (hbefore b List.mem_cons_self)] at hscheme
          cases hscheme
    · rintro rfl
      exact hasScheme_of_prefix ⟨after, hsplit.symm⟩ hchecked
  · intro hmargin
    obtain ⟨hbefore, hafter⟩ := List.forall_mem_append.1 hmargin
    have hparse : Address.parse? c.endpoint = Address.parse? (Text.trim c.endpoint) :=
      Address.parse?_of_margin hsplit hbefore hafter
    rw [Bridge.address, Bridge.address, Bridge.ofConfig, hparse]
  · intro hbeyond exchange counter path
    obtain ⟨b, hb, hmargin, hhead⟩ :=
      head?_trimmed_append hbeyond ((Text.trim c.endpoint).toList ++ after)
    rw [← hsplit] at hhead
    have hparse : Address.parse? c.endpoint = none :=
      Address.parse?_eq_none_of_head hhead (hbefore b hb) hmargin
    have haddress : (Bridge.ofConfig c).address = .error .noAddress := by
      rw [Bridge.address, Bridge.ofConfig, hparse]
      rfl
    rw [Bridge.read, Bridge.readAttribute, Bridge.post, haddress]

theorem validate_of_load {c : Config} {s : String} (h : load s = .ok c) : c.validate = .ok () := by
  unfold load at h
  split at h
  · cases h
  · rename_i c' _
    cases hvalid : c'.validate with
    | error e =>
        rw [hvalid] at h
        cases h
    | ok u =>
        rw [hvalid] at h
        rw [← Except.ok.inj h]
        exact hvalid

/-- Of a configuration that is accepted, whether it was built or read, the dashboard's bridge has the
endpoint as it stands in the configuration, with the blanks around it. -/
theorem endpoint_surrounded {c : Config} (h : c.validate = .ok () ∨ ∃ s, load s = .ok c) :
    ∃ d before after, Dashboard.ofConfig c = .ok d ∧ d.bridge = .ofConfig c ∧
      d.bridge.endpoint = c.endpoint ∧ c.Surrounded before after := by
  have hvalid : c.validate = .ok () := h.elim id fun ⟨_, hload⟩ => validate_of_load hload
  have hproblem : c.problem? = none := by
    cases hproblem : c.problem? with
    | none => rfl
    | some problem =>
        rw [validate_eq, hproblem] at hvalid
        cases hvalid
  obtain ⟨ds, p, hbuilds⟩ := builds_of_validate hvalid
  obtain ⟨before, after, hsurrounded⟩ := exists_surrounded hproblem
  exact ⟨_, before, after, hbuilds.dashboard, rfl, rfl, hsurrounded⟩

/-- A configuration whose endpoint stands behind a space that does not break. -/
def indented : Config := ofEndpoint "\xa0http://h/jolokia"

theorem validate_indented : indented.validate = .ok () := by
  have hproblem : indented.problem? = none := by decide +kernel
  rw [validate_eq, hproblem]
  rfl

/-- It is accepted, but no read of its bridge can be posted. -/
theorem endpoint_surrounded_indented :
    indented.validate = .ok () ∧
    (∃ d, Dashboard.ofConfig indented = .ok d ∧ hasScheme d.bridge.endpoint = false) ∧
    ∀ exchange counter path,
      (Bridge.ofConfig indented).read exchange counter path = .error (.transport .noAddress) := by
  obtain ⟨d, before, after, hd, hbridge, -, hsurrounded⟩ :=
    endpoint_surrounded (.inl validate_indented)
  have hscheme : hasScheme (Bridge.ofConfig indented).endpoint = false := by decide +kernel
  refine ⟨validate_indented, ⟨d, hd, hbridge ▸ hscheme⟩, hsurrounded.unread ?_⟩
  have hbefore : before ≠ [] := fun hnil => by
    rw [hsurrounded.begins.2 hnil] at hscheme
    cases hscheme
  obtain ⟨b, rest, rfl⟩ := List.exists_cons_of_ne_nil hbefore
  have hhead : some '\xa0' = some b := congrArg List.head? hsurrounded.split
  exact ⟨b, List.mem_cons_self, Option.some.inj hhead ▸ by decide⟩

end Config

end MetricWatch
