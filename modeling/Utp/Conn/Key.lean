import Mathlib.Data.List.Basic
import Utp.Conn.State

/-! # Connection keys

The key of a connection is a text built from its peer and its two ids. It is
read back from its end: the ids and the port are decimal renderings, which hold
neither the parenthesis nor the colon before them, so whatever the hostname
holds, it is what is left.
-/

namespace Utp

namespace Key

/-! ## Decimal renderings -/

/-- The characters of an integer in base ten. -/
def decimal (n : Int) : List Char :=
  (toString n).toList

theorem decimal_ofNat (n : Nat) : decimal n = Nat.toDigits 10 n := by
  have hrepr : toString (n : Int) = n.repr := by
    rw [Int.toString_eq_repr]
    rfl
  rw [decimal, hrepr, Nat.toList_repr]

theorem decimal_negSucc (n : Nat) : decimal (Int.negSucc n) = '-' :: Nat.toDigits 10 (n + 1) := by
  simp [decimal, Int.toString_eq_repr, Int.repr]

/-- Every character of a rendering is a digit or the sign. -/
theorem mem_decimal {c : Char} {n : Int} (h : c ∈ decimal n) : c.isDigit = true ∨ c = '-' := by
  cases n with
  | ofNat n =>
    rw [Int.ofNat_eq_natCast, decimal_ofNat] at h
    exact Or.inl (Nat.isDigit_of_mem_toDigits (by decide) (by decide) h)
  | negSucc n =>
    rw [decimal_negSucc] at h
    rcases List.mem_cons.mp h with hsign | hdigit
    · exact Or.inr hsign
    · exact Or.inl (Nat.isDigit_of_mem_toDigits (by decide) (by decide) hdigit)

theorem paren_not_mem_decimal (n : Int) : '(' ∉ decimal n := by
  intro h
  simpa using mem_decimal h

theorem colon_not_mem_decimal (n : Int) : ':' ∉ decimal n := by
  intro h
  simpa using mem_decimal h

theorem toDigits_injective {m n : Nat} (h : Nat.toDigits 10 m = Nat.toDigits 10 n) : m = n := by
  have hread := congrArg (fun digits => Nat.ofDigitChars 10 digits 0) h
  simpa [Nat.ofDigitChars_toDigits] using hread

/-- The sign is no digit. -/
theorem sign_not_mem_toDigits (n : Nat) : '-' ∉ Nat.toDigits 10 n := by
  intro h
  simpa using Nat.isDigit_of_mem_toDigits (by decide) (by decide) h

theorem decimal_injective {m n : Int} (h : decimal m = decimal n) : m = n := by
  cases m with
  | ofNat m =>
    cases n with
    | ofNat n =>
      simp only [Int.ofNat_eq_natCast, decimal_ofNat] at h
      rw [toDigits_injective h]
    | negSucc n =>
      simp only [Int.ofNat_eq_natCast, decimal_ofNat, decimal_negSucc] at h
      exact absurd (h ▸ List.mem_cons_self) (sign_not_mem_toDigits m)
  | negSucc m =>
    cases n with
    | ofNat n =>
      simp only [Int.ofNat_eq_natCast, decimal_ofNat, decimal_negSucc] at h
      exact absurd (h ▸ List.mem_cons_self) (sign_not_mem_toDigits n)
    | negSucc n =>
      simp only [decimal_negSucc, List.cons.injEq, true_and] at h
      rw [Nat.succ_injective (toDigits_injective h)]

/-! ## Reading a text from its end -/

/-- A text is cut at the last place its separator stands at. -/
theorem cut_last {α : Type*} {sep : α} {front front' tail tail' : List α} (h : sep ∉ tail)
    (h' : sep ∉ tail') :
    front ++ sep :: tail = front' ++ sep :: tail' ↔ front = front' ∧ tail = tail' := by
  constructor
  · intro heq
    rcases List.append_eq_append_iff.mp heq with ⟨gap, hfront, htail⟩ | ⟨gap, hfront, htail⟩
    · cases gap with
      | nil => simpa using And.intro hfront.symm htail
      | cons c gap =>
        -- The later separator would stand in the tail of the other text.
        obtain ⟨-, htail⟩ := List.cons.inj htail
        exact absurd (by simp [htail]) h
    · cases gap with
      | nil => simpa using And.intro hfront htail.symm
      | cons c gap =>
        obtain ⟨-, htail⟩ := List.cons.inj htail
        exact absurd (by simp [htail]) h'
  · rintro ⟨rfl, rfl⟩
    rfl

/-- A number after a label comes off the end, when no rendering holds the label's
last character. -/
theorem field_inj {front front' label name : List Char} {sep : Char} {m n : Int}
    (hlabel : label = name ++ [sep]) (hsep : ∀ k, sep ∉ decimal k) :
    front ++ label ++ decimal m = front' ++ label ++ decimal n ↔ front = front' ∧ m = n := by
  have hread : ∀ (text : List Char) (k : Int),
      text ++ label ++ decimal k = (text ++ name) ++ sep :: decimal k := by
    intro text k
    simp [hlabel]
  rw [hread, hread, cut_last (hsep m) (hsep n), List.append_cancel_right_eq]
  apply and_congr_right
  intro _
  exact ⟨decimal_injective, congrArg decimal⟩

/-! ## Keys -/

theorem generateUniqueId_toList (addr : UtpAddr) (sendId recvId : Int) :
    (UtpConn.generateUniqueId addr sendId recvId).toList =
      "addr(".toList ++ addr.hostname.toList ++ ":".toList ++ decimal addr.port ++
        ")|send_id(".toList ++ decimal sendId ++ ")|recv_id(".toList ++ decimal recvId ++
        ")".toList := by
  change ("addr(" ++ (addr.hostname ++ ":" ++ toString addr.port) ++ ")|send_id(" ++
    toString sendId ++ ")|recv_id(" ++ toString recvId ++ ")").toList = _
  simp only [String.toList_append, List.append_assoc]
  rfl

/-- Keys are equal for the same peer and the same pair of ids only. -/
theorem generateUniqueId_eq_iff (addr addr' : UtpAddr) (sendId recvId sendId' recvId' : Int) :
    UtpConn.generateUniqueId addr sendId recvId = UtpConn.generateUniqueId addr' sendId' recvId' ↔
      addr.hostname = addr'.hostname ∧ addr.port = addr'.port ∧ sendId = sendId' ∧
        recvId = recvId' := by
  have hrecv : ")|recv_id(".toList = ")|recv_id".toList ++ ['('] := by rfl
  have hsend : ")|send_id(".toList = ")|send_id".toList ++ ['('] := by rfl
  have hport : ":".toList = [] ++ [':'] := by rfl
  calc UtpConn.generateUniqueId addr sendId recvId =
        UtpConn.generateUniqueId addr' sendId' recvId'
      ↔ (((addr.hostname = addr'.hostname ∧ (addr.port : Int) = addr'.port) ∧
          sendId = sendId') ∧ recvId = recvId') := by
        rw [← String.toList_inj, generateUniqueId_toList, generateUniqueId_toList,
          List.append_cancel_right_eq, field_inj hrecv paren_not_mem_decimal,
          field_inj hsend paren_not_mem_decimal, field_inj hport colon_not_mem_decimal,
          List.append_cancel_left_eq, String.toList_inj]
    _ ↔ _ := by
        rw [Int.ofNat_inj]
        simp only [and_assoc]

/-- Two connections share a key exactly when they share their peer and both ids. -/
theorem uniqueId_eq_iff (conn conn' : UtpConn) :
    conn.uniqueId = conn'.uniqueId ↔
      conn.remoteAddr = conn'.remoteAddr ∧ conn.localSendId = conn'.localSendId ∧
        conn.localRecvId = conn'.localRecvId := by
  rw [UtpConn.uniqueId, UtpConn.uniqueId, generateUniqueId_eq_iff, ← and_assoc, Int.ofNat_inj,
    Int.ofNat_inj]
  apply and_congr_left
  intro _
  constructor
  · intro h
    cases hconn : conn.remoteAddr
    cases hconn' : conn'.remoteAddr
    simpa [hconn, hconn', and_comm] using h
  · intro h
    simp [h]

/-- Keys tell apart every two pairs of peer and ids, and with them every two
connections. -/
theorem keys_injective :
    (∀ (addr addr' : UtpAddr) (sendId recvId sendId' recvId' : Int),
      UtpConn.generateUniqueId addr sendId recvId =
          UtpConn.generateUniqueId addr' sendId' recvId' ↔
        addr.hostname = addr'.hostname ∧ addr.port = addr'.port ∧ sendId = sendId' ∧
          recvId = recvId') ∧
      ∀ conn conn' : UtpConn, conn.uniqueId = conn'.uniqueId ↔
        conn.remoteAddr = conn'.remoteAddr ∧ conn.localSendId = conn'.localSendId ∧
          conn.localRecvId = conn'.localRecvId := by
  constructor
  · exact generateUniqueId_eq_iff
  · exact uniqueId_eq_iff

end Key

end Utp
