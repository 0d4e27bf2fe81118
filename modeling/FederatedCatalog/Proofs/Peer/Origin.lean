import FederatedCatalog.Proofs.Resource.RoundTrip
import FederatedCatalog.Proofs.Server.Run

/-!
# The origin identifies the server

The text `hostname:port` holds the hostname as it is, neither in brackets nor escaped, so colons and
digits may stand in it before the colon that divides the text. The port is written with digits only.
Therefore the last colon is the one that divides, and no two servers have the same text.

## Main results

* `Text.parts_eq_of_last`: the last separator divides a text in one way;
* `Peer.parts_eq_of_origin_eq`: equal origins have equal hostnames and equal ports;
* `Peer.origin_eq_iff`: equal origins are those of equal servers;
* `Server.disjoint_frames`: no two servers list the same frame of their own.
-/

namespace FederatedCatalog

/-! ### The last separator -/

namespace Text

variable {α : Type*} {a : α} {front front' back back' more : List α}

/-- A text that opens with its last separator has no separator behind anything else. -/
private theorem eq_nil_of_cons_eq_append (hback : a ∉ back)
    (h : a :: back = more ++ a :: back') : more = [] := by
  cases more with
  | nil => rfl
  | cons b more =>
    -- the separator on the right would stand behind the one that opens the text
    have hmem : a ∈ back := by
      rw [(List.cons.inj h).2]
      exact List.mem_append_right more List.mem_cons_self
    exact absurd hmem hback

/-- A separator with none behind it divides a text in one way only, whatever stands before it. -/
theorem parts_eq_of_last (hback : a ∉ back) (hback' : a ∉ back')
    (h : front ++ a :: back = front' ++ a :: back') : front = front' ∧ back = back' := by
  -- one front continues the other one, and it cannot go on beyond the separator
  rcases List.append_eq_append_iff.mp h with ⟨more, hfront, hrest⟩ | ⟨more, hfront, hrest⟩
  · obtain rfl := eq_nil_of_cons_eq_append hback hrest
    exact ⟨by simp [hfront], (List.cons.inj hrest).2⟩
  · obtain rfl := eq_nil_of_cons_eq_append hback' hrest
    exact ⟨by simp [hfront], (List.cons.inj hrest).2.symm⟩

end Text

/-! ### Digits -/

namespace Json

/-- A number is written without a colon. -/
theorem colon_notMem_natChars (n : Nat) : ':' ∉ natChars n := by
  intro hcolon
  have hdigit : ':'.isDigit = true := Nat.isDigit_of_mem_toDigits (by decide) (by decide) hcolon
  exact absurd hdigit (by decide)

/-- Numbers that are written with the same digits are equal, since the digits read back. -/
theorem eq_of_natChars_eq {m n : Nat} (h : natChars m = natChars n) : m = n := by
  calc m = Nat.ofDigitChars 10 (natChars m) 0 := Nat.ofDigitChars_ten_toDigits.symm
    _ = Nat.ofDigitChars 10 (natChars n) 0 := by rw [h]
    _ = n := Nat.ofDigitChars_ten_toDigits

end Json

/-! ### Origins -/

namespace Peer

variable {p q : Peer}

@[simp]
theorem toList_origin (p : Peer) :
    p.origin.toList = p.hostname.toList ++ ':' :: Json.natChars p.port.toNat := by
  simp [origin, Json.natChars]

/-- Servers are equal when their hostnames and ports are. -/
theorem eq_iff : p = q ↔ p.hostname = q.hostname ∧ p.port = q.port := by
  cases p
  cases q
  simp

/-- The last colon divides equal origins into equal hostnames and equal ports. -/
theorem parts_eq_of_origin_eq (h : p.origin = q.origin) :
    p.hostname = q.hostname ∧ p.port = q.port := by
  have hchars : p.hostname.toList ++ ':' :: Json.natChars p.port.toNat =
      q.hostname.toList ++ ':' :: Json.natChars q.port.toNat := by
    simpa using congrArg String.toList h
  -- a hostname may hold colons, but none stands behind the one that opens the port
  obtain ⟨hhostname, hport⟩ := Text.parts_eq_of_last (Json.colon_notMem_natChars p.port.toNat)
    (Json.colon_notMem_natChars q.port.toNat) hchars
  exact ⟨String.toList_inj.mp hhostname, UInt16.toNat_inj.mp (Json.eq_of_natChars_eq hport)⟩

/-- The origin identifies the server: two servers have the same origin exactly when they are the
same, whatever their hostnames are made of. -/
theorem origin_eq_iff (p q : Peer) : p.origin = q.origin ↔ p = q := by
  constructor
  · intro h
    exact eq_iff.mpr (parts_eq_of_origin_eq h)
  · rintro rfl
    rfl

/-- Two spellings of an address are dialled alike, but as origins they are kept apart. -/
example :
    let short : Peer := ⟨"::1", 1⟩
    let long : Peer := ⟨"0:0:0:0:0:0:0:1", 1⟩
    short.dialTarget = long.dialTarget ∧ short.origin ≠ long.origin := by
  decide +kernel

end Peer

/-! ### Frames -/

/-- Two servers never write the same frame about entries of their own, since the origin in it is
that of one of them only. -/
theorem Server.disjoint_frames {s s' : Server} (h : s.directory.self ≠ s'.directory.self)
    (t t' : Resource) :
    ((s.matching t).map Resource.render).Disjoint ((s'.matching t').map Resource.render) := by
  intro frame hframe hframe'
  obtain ⟨copy, hcopy, rfl⟩ := List.mem_map.mp hframe
  obtain ⟨copy', hcopy', hrender⟩ := List.mem_map.mp hframe'
  obtain ⟨e, -, rfl⟩ := List.mem_map.mp hcopy
  obtain ⟨e', -, rfl⟩ := List.mem_map.mp hcopy'
  -- a frame reads back as the copy that it was written from
  have hread : e'.sanitized s'.origin = e.sanitized s.origin := by
    simpa [Resource.ofPeerFrame?_render] using congrArg Resource.ofPeerFrame? hrender
  have horigin : s'.origin = s.origin := Option.some.inj (congrArg Resource.origin hread)
  exact h (Peer.eq_iff.mpr (Peer.parts_eq_of_origin_eq horigin.symm))

end FederatedCatalog
