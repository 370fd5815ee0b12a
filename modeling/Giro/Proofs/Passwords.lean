import Giro.Password.Check

/-!
# New passwords are accepted

A hash is read back as the record that it was written from, with any salt of a length that a record
can hold. So a password is right for the hash that has been made of it, and for the hash of another
one exactly if both have the same digest.
-/

namespace Giro.Password

open Codec Text

namespace Record

/-! ## Base64 as a value -/

theorem byteLength_eq_length {cs : List Char} (h : ∀ c ∈ cs, c.utf8Size = 1) :
    byteLength cs = cs.length := by
  rw [byteLength]
  induction cs with
  | nil => rfl
  | cons c cs ih =>
    have first := h c List.mem_cons_self
    have rest := ih fun x hx => h x (List.mem_cons_of_mem _ hx)
    rw [String.ofList_cons, String.utf8ByteSize_append, String.utf8ByteSize_singleton,
      List.length_cons]
    omega

theorem byteLength_encode (bytes : List UInt8) :
    byteLength (Base64.encode .standard bytes) = (4 * bytes.length + 2) / 3 := by
  have narrow : ∀ n < 64, (Base64.Alphabet.standard.symbol n).utf8Size = 1 := by decide
  rw [Base64.encode_eq_map, byteLength_eq_length, List.length_map,
    Base64.length_values]
  intro c hc
  obtain ⟨n, hn, rfl⟩ := List.mem_map.mp hc
  exact narrow n (Base64.lt_of_mem_values hn)

theorem isValueChar_of_mem_encode {bytes : List UInt8} {c : Char}
    (h : c ∈ Base64.encode .standard bytes) : isValueChar c := by
  have allowed : ∀ n < 64, isValueChar (Base64.Alphabet.standard.symbol n) := by decide
  rw [Base64.encode_eq_map] at h
  obtain ⟨n, hn, rfl⟩ := List.mem_map.mp h
  exact allowed n (Base64.lt_of_mem_values hn)

theorem readSalt_encode {salt : List UInt8} (long : 3 ≤ salt.length) (short : salt.length ≤ 48) :
    readSalt (Base64.encode .standard salt) = .ok (Base64.encode .standard salt) := by
  have length := byteLength_encode salt
  have characters : (Base64.encode .standard salt).find? (fun c => !isValueChar c) = none :=
    List.find?_eq_none.mpr fun c hc => by simp [isValueChar_of_mem_encode hc]
  rw [readSalt, if_neg (by omega), if_neg (by omega), checkValue, if_neg (by omega), characters]
  rfl

theorem readDigest_encode {digest : List UInt8} (long : 10 ≤ digest.length)
    (short : digest.length ≤ 64) : readDigest (Base64.encode .standard digest) = .ok digest := by
  have length := byteLength_encode digest
  rw [readDigest, if_neg (by omega), Base64.decode_encode Base64.Alphabet.proper_standard]
  exact if_neg (by omega)

/-- A record with all of its fields. -/
theorem readAfterName_eq_ok {algorithm v p s d : List Char} {version : Nat}
    {parameters : List (List Char × List Char)} {salt : List Char} {digest : List UInt8}
    (first : isVersionField v) (second : p.contains '=')
    (hv : (checkValue (v.drop 2)).bind readDecimal = .ok version)
    (hp : readParameters p = .ok parameters) (hs : readSalt s = .ok salt)
    (hd : readDigest d = .ok digest) :
    readAfterName algorithm [v, p, s, d] =
      .ok ⟨algorithm, some version, parameters, some salt, some digest⟩ := by
  simp only [readAfterName, takeIf, if_pos first, if_pos second, Option.mapM_some, Option.map_some,
    Option.getD_some, List.getElem?_cons_zero, List.getElem?_cons_succ, hv, hp, hs, hd]
  rfl

/-! ## A new record -/

/-- A record with the settings of new ones. -/
def standard (salt digest : List UInt8) : Record where
  algorithm := Argon2.Variant.id.name
  version := some Argon2.Version.second.code
  parameters := [
    (['m'], Integer.digits Argon2.Cost.standard.memory),
    (['t'], Integer.digits Argon2.Cost.standard.passes),
    (['p'], Integer.digits Argon2.Cost.standard.lanes)]
  salt := some (Base64.encode .standard salt)
  digest := some digest

theorem digits_standard : Integer.digits Argon2.Cost.standard.memory = "19456".toList ∧
    Integer.digits Argon2.Cost.standard.passes = "2".toList ∧
    Integer.digits Argon2.Cost.standard.lanes = "1".toList ∧
    Integer.digits Argon2.Version.second.code = "19".toList := by
  decide +kernel

theorem write_standard (salt digest : List UInt8) : (standard salt digest).write =
    '$' :: ("argon2id".toList ++ '$' :: ("v=19".toList ++ '$' :: ("m=19456,t=2,p=1".toList ++ '$' ::
      (Base64.encode .standard salt ++ '$' :: Base64.encode .standard digest)))) := by
  obtain ⟨memory, passes, lanes, version⟩ := digits_standard
  rw [write, standard]
  simp only [memory, passes, lanes, version, Option.map_some]
  rfl

theorem read_write_standard {salt digest : List UInt8} (long : 3 ≤ salt.length)
    (short : salt.length ≤ 48) (h : digest.length = 32) :
    read (standard salt digest).write = .ok (standard salt digest) := by
  have dollar (bytes : List UInt8) : '$' ∉ Base64.encode .standard bytes :=
    Base64.not_mem_encode (by decide) bytes
  have version : (checkValue ("v=19".toList.drop 2)).bind readDecimal =
      .ok Argon2.Version.second.code := rfl
  have parameters : readParameters "m=19456,t=2,p=1".toList =
      .ok (standard salt digest).parameters := by
    obtain ⟨memory, passes, lanes, _⟩ := digits_standard
    rw [standard, memory, passes, lanes]
    rfl
  rw [write_standard, read, fields_append (by decide), fields_append (by decide),
    fields_append (by decide), fields_append (dollar salt), fields_of_not_mem (dollar digest)]
  have accepted : readName "argon2id".toList = .ok Argon2.Variant.id.name := rfl
  change (readName "argon2id".toList).bind _ = _
  rw [accepted]
  exact readAfterName_eq_ok rfl rfl version parameters (readSalt_encode long short)
    (readDigest_encode (by omega) (by omega))

theorem stated?_standard (salt digest : List UInt8) : (standard salt digest).stated? = some {} := by
  obtain ⟨memory, passes, lanes, _⟩ := digits_standard
  rw [stated?, standard, memory, passes, lanes]
  rfl

theorem not_overflows_standard (salt digest : List UInt8) :
    ¬ (standard salt digest).Overflows := by
  have fine : ¬ Argon2.Cost.standard.Overflows := by decide
  simp [Overflows, stated?_standard, fine]

theorem digestOf?_standard (password : String) {salt digest : List UInt8} (long : 8 ≤ salt.length)
    (h : digest.length = 32) : (standard salt digest).digestOf? password =
      some (Argon2.hash .id .second .standard 32 { password := utf8 password, salt }) := by
  have valid : Argon2.Cost.standard.Valid := by decide
  have settings : (standard salt digest).settings? = some {} := by
    simp [settings?, stated?_standard, valid]
  have bytes : (standard salt digest).saltBytes? = some salt := by
    simp [saltBytes?, standard, Base64.decode_encode Base64.Alphabet.proper_standard, long]
  rw [digestOf?, settings, bytes, ← h]
  rfl

end Record

/-- The digest that is kept of a new password. -/
def digest (password : String) (salt : List UInt8) : List UInt8 :=
  Argon2.hash .id .second .standard 32 { password := utf8 password, salt }

theorem length_digest (password : String) (salt : List UInt8) :
    (digest password salt).length = 32 := by
  rw [digest, Argon2.length_hash]

/-- A hash is read back. -/
theorem read_hash (password : String) {salt : List UInt8} (long : 8 ≤ salt.length)
    (short : salt.length ≤ 48) :
    Record.read (hash password salt).toList = .ok (.standard salt (digest password salt)) := by
  have length := length_digest password salt
  have hnew : Record.new password salt = .standard salt (digest password salt) := by
    rw [digest]
    rfl
  rw [hash, String.toList_ofList, hnew, Record.read_write_standard (by omega) short length]

/-- A password is right for the hash of another one if it has the same digest. -/
theorem check_hash_eq (other password : String) {salt : List UInt8} (long : 8 ≤ salt.length)
    (short : salt.length ≤ 48) : check other (hash password salt) =
      .ok (if digest other salt = digest password salt then .ok () else .error .incorrect) := by
  have verifies_iff : (Record.standard salt (digest password salt)).Verifies other ↔
      digest other salt = digest password salt := by
    rw [Record.Verifies, Record.digestOf?_standard other long (length_digest password salt)]
    simp [Record.standard, digest]
  rw [check, read_hash password long short]
  simp only [Record.not_overflows_standard, if_false, verifies_iff]
  split <;> rfl

theorem check_hash (password : String) {salt : List UInt8} (long : 8 ≤ salt.length)
    (short : salt.length ≤ 48) : check password (hash password salt) = .ok (.ok ()) := by
  rw [check_hash_eq _ _ long short, if_pos rfl]

end Giro.Password
