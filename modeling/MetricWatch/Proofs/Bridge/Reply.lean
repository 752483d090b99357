import MetricWatch.Bridge.Basic
import MetricWatch.Bridge.Source
import MetricWatch.Proofs.Poll.Run

/-!
What a read of the bridge comes to. A number is taken from a reply only if every layer says that the
read went well, all that can go wrong on the way is an error of transport, and either ends in a sample
of the definition that was read.
-/

namespace MetricWatch

namespace ReadResponse

/-- Whether a reply holds a number: a JSON number, or a text that names one between blanks. -/
def Holds (r : ReadResponse) (v : Float) : Prop :=
  (∃ n, r.value = some (.number n) ∧ n.toFloat = v) ∨
    ∃ s, r.value = some (.text s) ∧ Decimal.float? (Text.trimChars s.toList) = some v

theorem toNumber_eq_ok_iff {r : ReadResponse} {v : Float} :
    r.toNumber = .ok v ↔ r.status = okStatus ∧ r.Holds v := by
  unfold toNumber Holds
  split
  · rename_i hstatus
    simp [hstatus]
  · rename_i hstatus
    rw [Decidable.not_not.1 hstatus]
    split
    · rename_i n hvalue
      simp [hvalue]
    · rename_i s hvalue
      cases hread : Decimal.float? (Text.trimChars s.toList) <;> simp [hvalue, hread]
    · rename_i value hnumber htext hvalue
      constructor
      · exact nofun
      · rintro ⟨-, ⟨n, hn, -⟩ | ⟨s, hs, -⟩⟩
        · exact absurd (Option.some.inj (hvalue.symm.trans hn)) (hnumber n)
        · exact absurd (Option.some.inj (hvalue.symm.trans hs)) (htext s)
    · rename_i hvalue
      simp [hvalue]

theorem isTransport_of_toNumber {r : ReadResponse} {e : Error} (h : r.toNumber = .error e) :
    e.isTransport = true := by
  unfold toNumber at h
  split at h
  · rw [← Except.error.inj h]
    rfl
  · split at h
    · cases h
    · split at h
      · cases h
      · rw [← Except.error.inj h]
        rfl
    · rw [← Except.error.inj h]
      rfl
    · rw [← Except.error.inj h]
      rfl

end ReadResponse

theorem ClientFailure.isTransport_error (f : ClientFailure) : f.error.isTransport = true := by
  unfold ClientFailure.error
  split
  · rfl
  · split <;> rfl

namespace Bridge

/-- Whether a round trip gave a number: the reply says that the request went well, its body is a reply
of the bridge, and this one says that the read went well and holds the number. -/
def Gives (t : RoundTrip) (v : Float) : Prop :=
  ∃ status body reply, t = .replied status body ∧ isSuccess status = true ∧
    ReadResponse.ofBytes body = .ok reply ∧ reply.status = ReadResponse.okStatus ∧ reply.Holds v

theorem answer_eq_ok_iff {a : Address} {t : RoundTrip} {v : Float} :
    answer a t = .ok v ↔ Gives t v := by
  unfold Gives
  cases t with
  | unsent => exact ⟨nofun, nofun⟩
  | timedOut => exact ⟨nofun, nofun⟩
  | failed f => exact ⟨nofun, nofun⟩
  | replied status body =>
      rw [answer]
      constructor
      · intro h
        split at h
        · rename_i hsuccess
          split at h
          · rename_i reply hreply
            exact ⟨status, body, reply, rfl, hsuccess, hreply, ReadResponse.toNumber_eq_ok_iff.1 h⟩
          · cases h
        · cases h
      · rintro ⟨_, _, reply, heq, hsuccess, hreply, hholds⟩
        obtain ⟨rfl, rfl⟩ := RoundTrip.replied.inj heq
        rw [if_pos hsuccess, hreply]
        exact ReadResponse.toNumber_eq_ok_iff.2 hholds

theorem isTransport_of_answer {a : Address} {t : RoundTrip} {e : Error}
    (h : answer a t = .error e) : e.isTransport = true := by
  cases t with
  | unsent | timedOut =>
      rw [← Except.error.inj h]
      rfl
  | failed f =>
      rw [← Except.error.inj h]
      exact f.isTransport_error
  | replied status body =>
      rw [answer] at h
      split at h
      · split at h
        · exact ReadResponse.isTransport_of_toNumber h
        · rw [← Except.error.inj h]
          rfl
      · rw [← Except.error.inj h]
        rfl

variable {b : Bridge} {exchange : Address → ReadRequest → RoundTrip} {counter path : String}

theorem read_eq_ok_iff {v : Float} :
    b.read exchange counter path = .ok v ↔
      ∃ a, b.address = .ok a ∧
        Gives (exchange a (ReadRequest.make b.mbean counter (some path))) v := by
  unfold read readAttribute post
  split
  · rename_i problem haddress
    simp [haddress]
  · rename_i a haddress
    simp [haddress, answer_eq_ok_iff]

theorem isTransport_of_read {e : Error} (h : b.read exchange counter path = .error e) :
    e.isTransport = true := by
  unfold read readAttribute post at h
  split at h
  · rw [← Except.error.inj h]
    rfl
  · exact isTransport_of_answer h

/-- A bridge for reads that are given in full. -/
def jolokia : Bridge := { endpoint := "http://h/jolokia", mbean := "m", timeout := 5000 }

/-- The bytes of a reply that holds the text ` 12.5` and the status 200. -/
def textReply : List UInt8 :=
  [0x7b, 0x22, 0x76, 0x61, 0x6c, 0x75, 0x65, 0x22, 0x3a, 0x22, 0x20, 0x31, 0x32, 0x2e, 0x35, 0x22,
    0x2c, 0x22, 0x73, 0x74, 0x61, 0x74, 0x75, 0x73, 0x22, 0x3a, 0x32, 0x30, 0x30, 0x7d]

end Bridge

namespace Definition

variable (d : Definition) (timestamp : UInt64)

theorem label_sample (read : Except Error Float) : (d.sample timestamp read).label = d.label := by
  unfold sample
  split
  · split <;> rfl
  · rfl

/-- A sample has a value or an error, and never both. -/
theorem value_isSome_sample (read : Except Error Float) :
    (d.sample timestamp read).value.isSome = (d.sample timestamp read).error.isNone := by
  unfold sample
  split
  · split <;> rfl
  · rfl

theorem value_sample_eq_some_iff {read : Except Error Float} {v : Float} :
    (d.sample timestamp read).value = some v ↔ read = .ok v ∧ v.isFinite = true := by
  unfold sample
  split
  · rename_i x
    split
    · rename_i hfinite
      rw [Sample.ok, Option.some.injEq, Except.ok.injEq]
      exact ⟨fun h => ⟨h, h ▸ hfinite⟩, And.left⟩
    · rename_i hfinite
      refine ⟨nofun, ?_⟩
      rintro ⟨hread, hv⟩
      rw [Except.ok.inj hread] at hfinite
      exact absurd hv hfinite
  · exact ⟨nofun, nofun⟩

/-- Whatever becomes of a request, fetching a definition gives a sample of its label with either a value
or an error. It has a value exactly if the reply gives that number and it is finite. All that goes wrong
before is an error of transport, and the sample has its words. -/
theorem sample_of_read (b : Bridge) (exchange : Address → ReadRequest → RoundTrip) :
    let read := b.read exchange d.name d.path
    let s := d.sample timestamp read
    s.label = d.label ∧
    s.value.isSome = s.error.isNone ∧
    (∀ v, s.value = some v ↔
      (∃ a, b.address = .ok a ∧
        Bridge.Gives (exchange a (ReadRequest.make b.mbean d.name (some d.path))) v) ∧
      v.isFinite = true) ∧
    ∀ e, read = .error e →
      e.isTransport = true ∧ s = Sample.failed d.label timestamp e.message := by
  refine ⟨d.label_sample timestamp _, d.value_isSome_sample timestamp _, ?_, ?_⟩
  · intro v
    rw [value_sample_eq_some_iff, Bridge.read_eq_ok_iff]
  · intro e he
    refine ⟨Bridge.isTransport_of_read he, ?_⟩
    rw [he]
    rfl

theorem sample_of_read_textReply :
    (requests.sample 7 (Bridge.jolokia.read (fun _ _ => .replied 201 Bridge.textReply) "Req"
        "lastMinute/avg")).value = some 12.5 ∧
      requests.sample 7 (Bridge.jolokia.read (fun _ _ => .failed ⟨false, true, "too slow"⟩) "Req"
        "lastMinute/avg") =
          Sample.failed "L1" 7 "Transport error: request timed out: too slow" := by
  constructor
  · have hvalue := (requests.sample_of_read 7 .jolokia fun _ _ => .replied 201 Bridge.textReply).2.2.1
    apply (hvalue 12.5).2
    refine ⟨⟨_, rfl, 201, Bridge.textReply, _, rfl, rfl, rfl, rfl, .inr ⟨" 12.5", rfl, ?_⟩⟩, ?_⟩
    · decide
    · decide
  · exact ((requests.sample_of_read 7 .jolokia
      fun _ _ => .failed ⟨false, true, "too slow"⟩).2.2.2 _ rfl).2

end Definition

end MetricWatch
