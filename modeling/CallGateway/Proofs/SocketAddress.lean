import Mathlib.Data.List.TakeWhile
import CallGateway.Proofs.Text.Digits
import CallGateway.Proofs.Uuid
import CallGateway.SocketAddress

/-!
# Addresses are read back

Every address is read back from the text in which it is shown: with the longest run of zeros left
out, with the last groups written as octets, with a zone or without.
-/

namespace CallGateway.SocketAddress

open Text

/-! ## Numbers -/

/-- No number goes on here, nor does an address of octets. -/
def Ends (cs : List Char) : Prop := ∀ c rest, cs = c :: rest → hexValue? c = none ∧ c ≠ '.'

theorem decimalValue?_eq_none {c : Char} (h : hexValue? c = none) : decimalValue? c = none := by
  rw [hexValue?] at h
  split at h
  · cases h
  · split at h
    · cases h
    · exact h

theorem decimalValue?_digitChar : ∀ d < 10, decimalValue? d.digitChar = some d := by decide

theorem ends_cons {c : Char} (rest : List Char) (h : hexValue? c = none) (hc : c ≠ '.') :
    Ends (c :: rest) := by
  intro d ds hd
  cases hd
  exact ⟨h, hc⟩

variable {rest : List Char}

theorem readDecimal_toDigits {bound n : Nat} (h : n < bound) (hend : EndsDigits rest) :
    readDecimal bound (Nat.toDigits 10 n ++ rest) = some (n, rest) := by
  obtain ⟨ds, hs, S⟩ := spanDigits_toDigits (by decide) decimalValue?_digitChar n hend
  obtain ⟨d, ds, rfl⟩ := List.exists_cons_of_ne_nil S.ne_nil
  rw [readDecimal, hs]
  dsimp only
  rw [S.value, if_pos h]

theorem readOctet_toDigits (o : UInt8) (hend : EndsDigits rest) :
    readOctet (Nat.toDigits 10 o.toNat ++ rest) = some (o, rest) := by
  obtain ⟨ds, hs, S⟩ := spanDigits_toDigits (by decide) decimalValue?_digitChar o.toNat hend
  obtain ⟨d, ds, rfl⟩ := List.exists_cons_of_ne_nil S.ne_nil
  have hlength := S.length_le 3 (by decide) (Nat.lt_trans o.toNat_lt (by decide))
  have hlead : d ≠ 0 ∨ ds = [] := by
    refine Decidable.or_iff_not_imp_left.2 fun hd => ?_
    have := S.lead (congrArg some (Decidable.not_not.1 hd))
    exact (List.cons.inj this).2
  rw [readOctet, hs]
  dsimp only
  rw [S.value, if_pos ⟨Nat.le_of_succ_le_succ hlength, hlead, o.toNat_lt⟩, UInt8.ofNat_toNat]

theorem readGroup_toDigits (g : UInt16) (hend : Ends rest) :
    readGroup (Nat.toDigits 16 g.toNat ++ rest) = some (g, rest) := by
  obtain ⟨ds, hs, S⟩ := spanDigits_toDigits (by decide) Uuid.hexValue?_digitChar g.toNat
    fun c cs h => (hend c cs h).1
  obtain ⟨d, ds, rfl⟩ := List.exists_cons_of_ne_nil S.ne_nil
  rw [readGroup, hs]
  dsimp only
  rw [if_pos (S.length_le 4 (by decide) g.toNat_lt), S.value, UInt16.ofNat_toNat]

/-! ## Four octets -/

theorem exists_octets (x : Ipv4) : ∃ a b c d, x = ⟨#v[a, b, c, d]⟩ := by
  obtain ⟨⟨⟨octets⟩, h⟩⟩ := x
  match octets, h with
  | [a, b, c, d], _ => exact ⟨a, b, c, d, rfl⟩

theorem endsDigits_dot (cs : List Char) : EndsDigits ('.' :: cs) := by
  intro c rest h
  cases h
  rfl

theorem readIpv4_write (x : Ipv4) (hend : EndsDigits rest) :
    readIpv4 (writeIpv4 x ++ rest) = some (x, rest) := by
  obtain ⟨a, b, c, d, rfl⟩ := exists_octets x
  have text : writeIpv4 ⟨#v[a, b, c, d]⟩ ++ rest = Nat.toDigits 10 a.toNat ++
      '.' :: (Nat.toDigits 10 b.toNat ++ '.' :: (Nat.toDigits 10 c.toNat ++
        '.' :: (Nat.toDigits 10 d.toNat ++ rest))) := by
    simp [writeIpv4, List.intercalate]
  have dot (cs : List Char) : readMark '.' ('.' :: cs) = some cs := rfl
  rw [text, readIpv4, readOctet_toDigits a (endsDigits_dot _)]
  simp only [Option.bind_eq_bind, Option.bind_some, dot, readOctet_toDigits b (endsDigits_dot _),
    readOctet_toDigits c (endsDigits_dot _), readOctet_toDigits d hend, Option.pure_def]

/-- Where no point follows the digits there is no address of octets. -/
theorem readIpv4_eq_none {cs : List Char} (h : ∀ ds, (spanDigits decimalValue? cs).2 ≠ '.' :: ds) :
    readIpv4 cs = none := by
  have stop {o : UInt8} {rest : List Char} (ho : readOctet cs = some (o, rest)) :
      readMark '.' rest = none := by
    rw [readOctet] at ho
    split at ho
    · cases ho
    · next d ds rest' hs =>
      split at ho
      · cases ho
        rw [hs] at h
        cases rest with
        | nil => rfl
        | cons c rest => exact if_neg fun hc => h rest (by rw [hc])
      · cases ho
  rw [readIpv4]
  cases ho : readOctet cs with
  | none => rfl
  | some p => simp only [Option.bind_eq_bind, Option.bind_some, stop ho, Option.bind_none]

/-! ## Groups -/

/-- Groups behind others, with a colon in front of each. -/
def following (gs : List UInt16) : List Char := gs.flatMap fun g => ':' :: Nat.toDigits 16 g.toNat

theorem writeGroups_cons (g : UInt16) (gs : List UInt16) :
    writeGroups (g :: gs) = Nat.toDigits 16 g.toNat ++ following gs := by
  induction gs generalizing g with
  | nil => simp [writeGroups, following]
  | cons h gs ih =>
    rw [following, List.flatMap_cons, ← following, List.cons_append, ← ih]
    simp [writeGroups, List.intercalate]

theorem ends_following (gs : List UInt16) (hend : Ends rest) : Ends (following gs ++ rest) := by
  cases gs with
  | nil => exact hend
  | cons g gs => exact ends_cons _ (by decide) (by decide)

theorem digitChar_ne_dot : ∀ d < 16, d.digitChar ≠ '.' := by decide

theorem spanDigits_ne_dot {cs : List Char} (h : ∀ c ∈ cs, c ≠ '.') (hend : Ends rest)
    (ds : List Char) : (spanDigits decimalValue? (cs ++ rest)).2 ≠ '.' :: ds := by
  induction cs with
  | nil =>
    cases rest with
    | nil => nofun
    | cons c rest =>
      obtain ⟨hc, hdot⟩ := hend c rest rfl
      rw [List.nil_append, spanDigits, decimalValue?_eq_none hc]
      exact fun h => hdot (List.cons.inj h).1
  | cons c cs ih =>
    obtain ⟨hdot, hcs⟩ := List.forall_mem_cons.1 h
    rw [List.cons_append, spanDigits]
    cases decimalValue? c with
    | none => exact fun h => hdot (List.cons.inj h).1
    | some d => exact ih hcs

/-- A group is not taken for octets. -/
theorem readIpv4_group (g : UInt16) (hend : Ends rest) :
    readIpv4 (Nat.toDigits 16 g.toNat ++ rest) = none := by
  obtain ⟨ds, hds, hbound, -⟩ := exists_toDigits (by decide : 1 < 16) g.toNat
  rw [hds]
  refine readIpv4_eq_none (spanDigits_ne_dot (fun c hc => ?_) hend)
  obtain ⟨d, hd, rfl⟩ := List.mem_map.1 hc
  exact digitChar_ne_dot d (hbound d hd)

/-- No group goes on here, unless after two colons. -/
def Stops (cs : List Char) : Prop := ∀ rest, cs = ':' :: rest → ∃ rest', rest = ':' :: rest'

/-- What neither starts like a group nor like octets. -/
theorem readGroups_of_ends {first : Bool} {cs inner : List Char} (room : Nat)
    (h : readSeparator first cs = some inner) (hend : Ends inner) :
    readGroups first room cs = ([], false, cs) := by
  have hspan {value? : Char → Option Nat} (hv : ∀ c, hexValue? c = none → value? c = none) :
      spanDigits value? inner = ([], inner) := by
    cases inner with
    | nil => rfl
    | cons c rest => rw [spanDigits, hv c (hend c rest rfl).1]
  have hoctet : readIpv4 inner = none := by
    rw [readIpv4, readOctet, hspan fun _ => decimalValue?_eq_none]
    rfl
  have hgroup : readGroup inner = none := by rw [readGroup, hspan fun _ => id]
  cases room with
  | zero => rfl
  | succ room =>
    rw [readGroups, h]
    simp only [hoctet, hgroup, ite_self]

theorem readGroups_nothing (room : Nat) (hend : Ends rest) (hstop : room = 0 ∨ Stops rest) :
    readGroups false room rest = ([], false, rest) := by
  cases room with
  | zero => rfl
  | succ room =>
    have hstop := hstop.resolve_left (Nat.succ_ne_zero room)
    cases hr : readSeparator false rest with
    | none => rw [readGroups, hr]
    | some inner =>
      refine readGroups_of_ends _ hr ?_
      obtain ⟨c, cs, rfl⟩ : ∃ c cs, rest = c :: cs := by
        cases rest with
        | nil => cases hr
        | cons c cs => exact ⟨c, cs, rfl⟩
      rw [readSeparator, if_neg Bool.false_ne_true, readMark] at hr
      split at hr
      · next hc =>
        cases hr
        obtain ⟨rest', rfl⟩ := hstop inner (by rw [hc])
        exact ends_cons _ (by decide) (by decide)
      · cases hr

/-- A group is read, and then those behind it. -/
theorem readGroups_cons {first : Bool} {cs : List Char} {g : UInt16} {gs : List UInt16} (room : Nat)
    (h : readSeparator first cs = some (Nat.toDigits 16 g.toNat ++ rest)) (hend : Ends rest)
    (hrest : readGroups false room rest = (gs, embedded, rest')) :
    readGroups first (room + 1) cs = (g :: gs, embedded, rest') := by
  rw [readGroups, h]
  simp only [readIpv4_group g hend, readGroup_toDigits g hend, ite_self, hrest]

theorem readGroups_following {gs : List UInt16} {room : Nat} (hroom : gs.length ≤ room)
    (hend : Ends rest) (hstop : gs.length = room ∨ Stops rest) :
    readGroups false room (following gs ++ rest) = (gs, false, rest) := by
  induction gs generalizing room with
  | nil => exact readGroups_nothing room hend (hstop.imp_left Eq.symm)
  | cons g gs ih =>
    cases room with
    | zero => cases hroom
    | succ room =>
      have hrest := ih (Nat.le_of_succ_le_succ hroom) (hstop.imp_left Nat.succ.inj)
      refine readGroups_cons room ?_ (ends_following gs hend) hrest
      simp [following, readSeparator, readMark]

/-- Groups are read back up to a place where no other group follows, or for which there is no
room. -/
theorem readGroups_write {gs : List UInt16} {room : Nat} (hroom : gs.length ≤ room)
    (hend : Ends rest) (hstop : gs.length = room ∨ Stops rest) :
    readGroups true room (writeGroups gs ++ rest) = (gs, false, rest) := by
  cases gs with
  | nil => exact readGroups_of_ends room rfl hend
  | cons g gs =>
    cases room with
    | zero => cases hroom
    | succ room =>
      have hrest := readGroups_following (Nat.le_of_succ_le_succ hroom) hend
        (hstop.imp_left Nat.succ.inj)
      refine readGroups_cons room ?_ (ends_following gs hend) hrest
      rw [writeGroups_cons, List.append_assoc]
      rfl

/-! ## Eight groups -/

theorem takeWhile_zeros (gs : List UInt16) :
    gs.takeWhile (· == 0) = List.replicate (leadingZeros gs) 0 := by
  refine List.eq_replicate_of_mem fun g hg => ?_
  exact beq_iff_eq.1 (List.mem_takeWhile_imp (p := (· == 0)) hg)

theorem replicate_leadingZeros (gs : List UInt16) :
    List.replicate (leadingZeros gs) 0 ++ gs.drop (leadingZeros gs) = gs := by
  have h := List.takeWhile_append_dropWhile (p := (· == (0 : UInt16))) (l := gs)
  have hdrop : gs.drop (leadingZeros gs) = gs.dropWhile (· == 0) :=
    (congrArg (List.drop (leadingZeros gs)) h).symm.trans (List.drop_left' rfl)
  rw [hdrop, ← takeWhile_zeros, h]

/-- The longest run is one of zeros, from its start on. -/
theorem longestRun_split (gs : List UInt16) :
    gs.take (longestRun gs).1 ++ List.replicate (longestRun gs).2 0 ++
      gs.drop ((longestRun gs).1 + (longestRun gs).2) = gs := by
  induction gs with
  | nil => rfl
  | cons g gs ih =>
    rw [longestRun]
    dsimp only
    split
    · rw [List.take_zero, List.nil_append, Nat.zero_add, replicate_leadingZeros]
    · rw [List.take_succ_cons, Nat.add_right_comm, List.drop_succ_cons, List.cons_append,
        List.cons_append, ih]

theorem ofGroups_eq {x : Ipv6} {gs : List UInt16} (h : gs = x.groups.toList)
    (hsize : gs.toArray.size = 8) : (⟨⟨gs.toArray, hsize⟩⟩ : Ipv6) = x := by
  subst h
  rfl

theorem readIpv6_full {x : Ipv6} (hend : Ends rest) :
    readIpv6 (writeGroups x.groups.toList ++ rest) = some (x, rest) := by
  have hlength : x.groups.toList.length = 8 := x.groups.length_toList
  rw [readIpv6, readGroups_write (Nat.le_of_eq hlength) hend (.inl hlength)]
  simp only [hlength, dite_true]
  exact congrArg (fun x => some (x, rest)) (ofGroups_eq rfl _)

/-- Groups are read in front of two colons and behind them, and zeros are put between. -/
theorem readIpv6_of_parts {x : Ipv6} {cs mid : List Char} {front back : List UInt16}
    (hfront : readGroups true 8 cs = (front, false, ':' :: ':' :: mid))
    (hback : readGroups true (7 - front.length) mid = (back, embedded, rest))
    (hlt : front.length < 8)
    (hx : front ++ List.replicate (8 - front.length - back.length) 0 ++ back = x.groups.toList) :
    readIpv6 cs = some (x, rest) := by
  have hlength := (congrArg List.length hx).trans x.groups.length_toList
  rw [readIpv6, hfront]
  simp only [Nat.ne_of_lt hlt, dite_false, Bool.false_eq_true, if_false, readMark, if_true,
    Option.bind_eq_bind, Option.bind_some, hback]
  rw [dif_pos hlength]
  exact congrArg (fun x => some (x, rest)) (ofGroups_eq hx _)

theorem readIpv6_short {x : Ipv6} {front back : List UInt16} {n : Nat} (hn : 0 < n)
    (h : x.groups.toList = front ++ List.replicate n 0 ++ back) (hend : Ends rest)
    (hstop : Stops rest) :
    readIpv6 (writeGroups front ++ [':', ':'] ++ writeGroups back ++ rest) = some (x, rest) := by
  have hlength := (congrArg List.length h).symm.trans x.groups.length_toList
  simp only [List.length_append, List.length_replicate] at hlength
  have hfront : readGroups true 8 (writeGroups front ++ [':', ':'] ++ writeGroups back ++ rest) =
      (front, false, ':' :: ':' :: (writeGroups back ++ rest)) := by
    rw [List.append_assoc, List.append_assoc]
    exact readGroups_write (by omega) (ends_cons _ (by decide) (by decide))
      (.inr fun cs hcs => by cases hcs; exact ⟨_, rfl⟩)
  have hback : readGroups true (7 - front.length) (writeGroups back ++ rest) =
      (back, false, rest) :=
    readGroups_write (by omega) hend (.inr hstop)
  have hzeros : 8 - front.length - back.length = n := by omega
  exact readIpv6_of_parts hfront hback (by omega) (by rw [hzeros, h])

theorem Ends.digits (H : Ends rest) : EndsDigits rest :=
  fun c cs h => decimalValue?_eq_none (H c cs h).1

theorem ofNat_bytes (g : UInt16) :
    UInt16.ofNat ((g / 256).toUInt8.toNat * 256 + g.toUInt8.toNat) = g := by
  have hg := g.toNat_lt
  apply UInt16.toNat_inj.1
  simp only [UInt16.toNat_ofNat', UInt16.toNat_toUInt8, UInt16.toNat_div, UInt16.toNat_ofNat,
    Nat.reducePow, Nat.reduceMod]
  omega

/-- An address that carries one of the older kind has its octets in the last two groups. -/
theorem groups_of_mapped {x : Ipv6} {y : Ipv4} (h : x.mapped? = some y) :
    x.groups.toList = [0, 0, 0, 0, 0, 0xffff] ++ y.pairs := by
  obtain ⟨⟨⟨groups⟩, hsize⟩⟩ := x
  match groups, hsize with
  | [a, b, c, d, e, f, g, k], _ =>
    rw [Ipv6.mapped?] at h
    split at h
    · next h' =>
      cases h
      have hpairs : Ipv4.pairs ⟨#v[(g / 256).toUInt8, g.toUInt8, (k / 256).toUInt8, k.toUInt8]⟩ =
          [g, k] := congrArg₂ (fun g k => [g, k]) (ofNat_bytes g) (ofNat_bytes k)
      show [a, b, c, d, e, f] ++ [g, k] = _
      exact congrArg₂ (· ++ ·) h' hpairs.symm
    · cases h

theorem readIpv6_mapped {x : Ipv6} {y : Ipv4} (h : x.mapped? = some y) (hend : Ends rest) :
    readIpv6 ("::ffff:".toList ++ writeIpv4 y ++ rest) = some (x, rest) := by
  have hfront : readGroups true 8 ("::ffff:".toList ++ writeIpv4 y ++ rest) =
      ([], false, ':' :: ':' :: ("ffff:".toList ++ writeIpv4 y ++ rest)) :=
    readGroups_of_ends 8 rfl (ends_cons _ (by decide) (by decide))
  have hoctets : readGroups false 6 (':' :: (writeIpv4 y ++ rest)) = (y.pairs, true, rest) := by
    rw [readGroups]
    simp [readSeparator, readMark, readIpv4_write y hend.digits]
  have hback : readGroups true 7 ("ffff:".toList ++ writeIpv4 y ++ rest) =
      (0xffff :: y.pairs, true, rest) :=
    readGroups_cons 6 rfl (ends_cons _ (by decide) (by decide)) hoctets
  exact readIpv6_of_parts hfront hback (by decide) (groups_of_mapped h).symm

theorem readIpv6_write (x : Ipv6) (hend : Ends rest) (hstop : Stops rest) :
    readIpv6 (writeIpv6 x ++ rest) = some (x, rest) := by
  rw [writeIpv6]
  cases hm : x.mapped? with
  | some y => exact readIpv6_mapped hm hend
  | none =>
    dsimp only
    split
    · next hrun =>
      exact readIpv6_short (Nat.lt_of_succ_lt hrun) (longestRun_split _).symm hend hstop
    · exact readIpv6_full hend

/-! ## Addresses with a port -/

theorem endsDigits_nil : EndsDigits [] := nofun

theorem readPort_write (port : UInt16) :
    readPort (':' :: Nat.toDigits 10 port.toNat) = some (port, []) := by
  have h := readDecimal_toDigits port.toNat_lt endsDigits_nil
  rw [List.append_nil] at h
  simp only [readPort, readMark, if_true, Option.bind_eq_bind, Option.bind_some, Nat.reducePow,
    h, Option.pure_def, UInt16.ofNat_toNat]

/-- The zone of an address as it is written, which is left out where there is none. -/
def writeScope (scope : UInt32) : List Char :=
  if scope = 0 then [] else '%' :: Nat.toDigits 10 scope.toNat

theorem readScope_write (scope : UInt32) (rest : List Char) :
    readScope (writeScope scope ++ ']' :: rest) = (scope, ']' :: rest) := by
  have hend : EndsDigits (']' :: rest) := by
    intro c cs h
    cases h
    rfl
  rw [readScope, writeScope]
  by_cases hscope : scope = 0
  · rw [if_pos hscope, hscope]
    rfl
  · have h := readDecimal_toDigits scope.toNat_lt hend
    simp only [if_neg hscope, List.cons_append, readMark, if_true, Option.bind_some, Nat.reducePow,
      h, UInt32.ofNat_toNat]

theorem ends_scope (scope : UInt32) (rest : List Char) :
    Ends (writeScope scope ++ ']' :: rest) ∧ Stops (writeScope scope ++ ']' :: rest) := by
  rw [writeScope]
  split
  · exact ⟨ends_cons _ (by decide) (by decide), nofun⟩
  · exact ⟨ends_cons _ (by decide) (by decide), nofun⟩

theorem parse?_display (a : SocketAddress) : parse? a.display = some a := by
  rw [parse?, display, String.toList_ofList]
  cases a with
  | v4 ip port =>
    have hend : EndsDigits (':' :: Nat.toDigits 10 port.toNat) := by
      intro c cs h
      cases h
      rfl
    have h : readV4 (write (.v4 ip port)) = some (.v4 ip port, []) := by
      rw [readV4, write, readIpv4_write ip hend]
      simp only [Option.bind_eq_bind, Option.bind_some, readPort_write, Option.pure_def]
    rw [h]
    rfl
  | v6 ip scope port =>
    have hno : readV4 (write (.v6 ip scope port)) = none := rfl
    have text : write (.v6 ip scope port) = '[' :: (writeIpv6 ip ++
        (writeScope scope ++ ']' :: ':' :: Nat.toDigits 10 port.toNat)) := by
      simp only [write, writeScope, List.cons_append, List.append_assoc]
    have h : readV6 (write (.v6 ip scope port)) = some (.v6 ip scope port, []) := by
      obtain ⟨hend, hstop⟩ := ends_scope scope (':' :: Nat.toDigits 10 port.toNat)
      rw [text, readV6]
      simp only [readMark, if_true, Option.bind_eq_bind, Option.bind_some,
        readIpv6_write ip hend hstop, readScope_write, readPort_write, Option.pure_def]
    rw [hno, h]
    rfl

end CallGateway.SocketAddress
