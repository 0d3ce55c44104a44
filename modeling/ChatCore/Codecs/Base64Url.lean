import ChatCore.Streaming.Text

/-! Base64url without padding, over the UTF-8 bytes of a text. -/

namespace ChatCore.Codecs.Base64Url

def sextets : List ℕ → List ℕ
  | a :: b :: c :: rest => a / 4 :: (a % 4 * 16 + b / 16) :: (b % 16 * 4 + c / 64) :: c % 64 :: sextets rest
  | [a, b] => [a / 4, a % 4 * 16 + b / 16, b % 16 * 4]
  | [a] => [a / 4, a % 4 * 16]
  | [] => []

def octets : List ℕ → List ℕ
  | a :: b :: c :: d :: rest => (4 * a + b / 16) :: (b % 16 * 16 + c / 4) :: (c % 4 * 64 + d) :: octets rest
  | [a, b, c] => [4 * a + b / 16, b % 16 * 16 + c / 4]
  | [a, b] => [4 * a + b / 16]
  | _ => []

def letter (n : ℕ) : Char :=
  if n < 26 then Char.ofNat (n + 65)
  else if n < 52 then Char.ofNat (n + 71)
  else if n < 62 then Char.ofNat (n - 4)
  else if n = 62 then '-'
  else '_'

def sextet (c : Char) : Option ℕ :=
  if 'A' ≤ c ∧ c ≤ 'Z' then some (c.toNat - 65)
  else if 'a' ≤ c ∧ c ≤ 'z' then some (c.toNat - 71)
  else if '0' ≤ c ∧ c ≤ '9' then some (c.toNat + 4)
  else if c = '-' ∨ c = '+' then some 62
  else if c = '_' ∨ c = '/' then some 63
  else none

/-- `Buffer.from(text).toString('base64url')` -/
def encode (text : String) : String :=
  String.ofList ((sextets ((Streaming.encode text.toList).map UInt8.toNat)).map letter)

/-- `Buffer.from(value, 'base64url').toString('utf8')` of what `encode` has encoded. -/
def decode (value : String) : String :=
  String.ofList (Streaming.decode ((octets (value.toList.filterMap sextet)).map UInt8.ofNat)).1

lemma octets_sextets {bytes : List ℕ} (h : ∀ b ∈ bytes, b < 256) : octets (sextets bytes) = bytes := by
  induction bytes using sextets.induct with
  | case1 a b c rest ih =>
    have ha := h a List.mem_cons_self
    have hb := h b (List.mem_cons_of_mem _ List.mem_cons_self)
    have hc := h c (List.mem_cons_of_mem _ (List.mem_cons_of_mem _ List.mem_cons_self))
    rw [sextets, octets, ih fun d hd => h d (by simp [hd])]
    congr 1
    · omega
    · congr 1
      · omega
      · congr 1
        omega
  | case2 a b =>
    have ha := h a List.mem_cons_self
    have hb := h b (List.mem_cons_of_mem _ List.mem_cons_self)
    rw [sextets, octets]
    congr 1
    · omega
    · congr 1
      omega
  | case3 a =>
    have ha := h a List.mem_cons_self
    rw [sextets, octets]
    congr 1
    omega
  | case4 => rfl

lemma sextets_lt {bytes : List ℕ} (h : ∀ b ∈ bytes, b < 256) : ∀ n ∈ sextets bytes, n < 64 := by
  induction bytes using sextets.induct with
  | case1 a b c rest ih =>
    have ha := h a List.mem_cons_self
    have hb := h b (List.mem_cons_of_mem _ List.mem_cons_self)
    have hc := h c (List.mem_cons_of_mem _ (List.mem_cons_of_mem _ List.mem_cons_self))
    have hrest := ih fun d hd => h d (by simp [hd])
    simp only [sextets, List.forall_mem_cons]
    exact ⟨by omega, by omega, by omega, Nat.mod_lt _ (by decide), hrest⟩
  | case2 a b =>
    have ha := h a List.mem_cons_self
    have hb := h b (List.mem_cons_of_mem _ List.mem_cons_self)
    simp only [sextets, List.forall_mem_cons]
    exact ⟨by omega, by omega, by omega, fun n hn => absurd hn List.not_mem_nil⟩
  | case3 a =>
    have ha := h a List.mem_cons_self
    simp only [sextets, List.forall_mem_cons]
    exact ⟨by omega, by omega, fun n hn => absurd hn List.not_mem_nil⟩
  | case4 => exact fun n hn => absurd hn List.not_mem_nil

lemma sextet_letter : ∀ n < 64, sextet (letter n) = some n := by decide

lemma filterMap_letters {ns : List ℕ} (h : ∀ n ∈ ns, n < 64) : (ns.map letter).filterMap sextet = ns := by
  induction ns with
  | nil => rfl
  | cons n ns ih =>
    obtain ⟨hn, hns⟩ := List.forall_mem_cons.mp h
    rw [List.map_cons, List.filterMap_cons_some (sextet_letter n hn), ih hns]

theorem decode_encode (text : String) : decode (encode text) = text := by
  have hbytes : ∀ b ∈ (Streaming.encode text.toList).map UInt8.toNat, b < 256 := by
    rintro _ hb
    obtain ⟨byte, -, rfl⟩ := List.mem_map.mp hb
    exact byte.toNat_lt
  have hback : ((Streaming.encode text.toList).map UInt8.toNat).map UInt8.ofNat =
    Streaming.encode text.toList := by
    rw [List.map_map]
    exact List.map_id'' (fun byte => UInt8.ofNat_toNat) _
  rw [decode, encode, String.toList_ofList, filterMap_letters (sextets_lt hbytes), octets_sextets hbytes, hback,
    Streaming.decode_encode, String.ofList_toList]

end ChatCore.Codecs.Base64Url
