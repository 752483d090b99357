import MetricWatch.Bridge.Request
import MetricWatch.Proofs.Json.Values

/-!
What the text of a read request tells. Whatever stands in the names and the path, the text is an object
of just these, so that no two different reads are asked for in the same words.
-/

namespace MetricWatch

open Json (Value)

namespace ReadRequest

/-- The members of a request that asks for an attribute, or for what stands at a path inside it. -/
def asked (mbean attr path : String) : List (String × Value) :=
  [("type", .text "read"), ("mbean", .text mbean), ("attribute", .text attr)] ++
    if path = "" then [] else [("path", .text path)]

theorem jsonText_make (mbean attr : String) (path : Option String) :
    (make mbean attr path).jsonText =
      String.ofList (Value.object (asked mbean attr (path.getD ""))).chars := by
  cases path with
  | none => rfl
  | some path =>
      rw [Option.getD_some, asked]
      split
      · rename_i hpath
        rw [hpath]
        rfl
      · rename_i hpath
        have hgiven : (some path).filter (· ≠ "") = some path := by simp [hpath]
        rw [make, hgiven]
        rfl

theorem nodup_asked (mbean attr path : String) : ((asked mbean attr path).map (·.1)).Nodup := by
  rw [asked]
  split <;> simp

theorem text_of_mem_asked {mbean attr path : String} :
    ∀ e ∈ asked mbean attr path, ∃ s, e.2 = .text s := by
  rw [asked]
  split <;> simp

theorem mem_asked {mbean attr path : String} :
    (∀ s, ("mbean", Value.text s) ∈ asked mbean attr path ↔ s = mbean) ∧
    (∀ s, ("attribute", Value.text s) ∈ asked mbean attr path ↔ s = attr) ∧
    ∀ s, ("path", Value.text s) ∈ asked mbean attr path ↔ s = path ∧ path ≠ "" := by
  rw [asked]
  split
  · rename_i hpath
    simp [hpath]
  · rename_i hpath
    simp [hpath]

/-- The names and the path can be told from the members, whatever their order. -/
theorem asked_perm_iff {mbean attr path mbean' attr' path' : String} :
    (asked mbean attr path).Perm (asked mbean' attr' path') ↔
      mbean = mbean' ∧ attr = attr' ∧ path = path' := by
  constructor
  · intro h
    obtain ⟨hmbean, hattr, hpath⟩ := @mem_asked mbean attr path
    obtain ⟨hmbean', hattr', hpath'⟩ := @mem_asked mbean' attr' path'
    refine ⟨(hmbean' _).1 (h.mem_iff.1 ((hmbean _).2 rfl)),
      (hattr' _).1 (h.mem_iff.1 ((hattr _).2 rfl)), ?_⟩
    by_cases hempty : path = ""
    · by_contra hne
      have hfull : path' ≠ "" := fun heq => hne (hempty.trans heq.symm)
      exact hne ((hpath _).1 (h.mem_iff.2 ((hpath' _).2 ⟨rfl, hfull⟩))).1.symm
    · exact ((hpath' _).1 (h.mem_iff.1 ((hpath _).2 ⟨rfl, hempty⟩))).1
  · rintro ⟨rfl, rfl, rfl⟩
    exact .refl _

/-- A request is read back as an object of just its kind, the names and the path, if this is not empty.
Two requests have the same text only if they ask for the same. -/
theorem parse_request (mbean attr : String) (path : Option String) :
    (∃ members, Value.parse (make mbean attr path).jsonText = .ok (.object members) ∧
      members.Perm (asked mbean attr (path.getD ""))) ∧
    ∀ mbean' attr' path', (make mbean attr path).jsonText = (make mbean' attr' path').jsonText ↔
      mbean = mbean' ∧ attr = attr' ∧ path.getD "" = path'.getD "" := by
  have hparse := fun mbean attr path =>
    Value.parse_object text_of_mem_asked (nodup_asked mbean attr path)
  refine ⟨?_, ?_⟩
  · obtain ⟨members, hmembers, hperm⟩ := hparse mbean attr (path.getD "")
    exact ⟨members, jsonText_make mbean attr path ▸ hmembers, hperm⟩
  · intro mbean' attr' path'
    constructor
    · intro htext
      obtain ⟨members, hmembers, hperm⟩ := hparse mbean attr (path.getD "")
      obtain ⟨members', hmembers', hperm'⟩ := hparse mbean' attr' (path'.getD "")
      rw [jsonText_make, jsonText_make] at htext
      rw [htext, hmembers'] at hmembers
      obtain rfl := Value.object.inj (Except.ok.inj hmembers)
      exact asked_perm_iff.1 (hperm.symm.trans hperm')
    · rintro ⟨rfl, rfl, hpath⟩
      rw [jsonText_make, jsonText_make, hpath]

end ReadRequest

end MetricWatch
