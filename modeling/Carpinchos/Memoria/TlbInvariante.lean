import Carpinchos.Memoria.Paginacion

/-!
# The TLB agrees with the frame table

Every non-empty entry names the frame that holds its page, and no frame has two
entries. The functions of the TLB keep this, and change nothing but the TLB, the
counters of hits and misses, and the clock that they draw their stamps from.
-/

namespace Carpinchos.Memoria

open Outcome Estado

section SoloTlb

def Carpincho.sinConteos (c : Carpincho) : Carpincho := { c with tlbHits := 0, tlbMiss := 0 }

/-- Only the TLB, its pointer, the counts and the time stamp counters differ. -/
structure SoloTlb (s s' : Estado) : Prop where
  cache : s'.cache = s.cache
  marcosList : s'.marcosList = s.marcosList
  descriptor : s'.descriptor = s.descriptor
  proximoPtr : s'.proximoPtr = s.proximoPtr
  mensajes : s'.mensajes = s.mensajes
  puntero : s'.algoritmStackPointer = s.algoritmStackPointer
  ramas : s'.ramas = s.ramas
  carpinchos : s'.carpinchosList.map Carpincho.sinConteos =
    s.carpinchosList.map Carpincho.sinConteos
  contador : s.contadorTimestamp ≤ s'.contadorTimestamp

variable {s s' s'' : Estado}

theorem SoloTlb.refl (s : Estado) : SoloTlb s s :=
  ⟨rfl, rfl, rfl, rfl, rfl, rfl, rfl, rfl, le_rfl⟩

theorem SoloTlb.trans (h : SoloTlb s s') (h' : SoloTlb s' s'') : SoloTlb s s'' :=
  ⟨h'.cache.trans h.cache, h'.marcosList.trans h.marcosList, h'.descriptor.trans h.descriptor,
    h'.proximoPtr.trans h.proximoPtr, h'.mensajes.trans h.mensajes, h'.puntero.trans h.puntero,
    h'.ramas.trans h.ramas, h'.carpinchos.trans h.carpinchos, h.contador.trans h'.contador⟩

theorem incrementar_spec (x : ℕ) :
    Spec (incrementar x) (fun y => y = x + 1) (· = .desbordamiento) := by
  unfold incrementar
  split <;> rfl

theorem incrementar_cases {x y : ℕ} (h : incrementar x = .ok y) : y = x + 1 ∧ x + 1 < 2 ^ 31 := by
  unfold incrementar at h
  split at h
  · next hlt =>
    cases h
    exact ⟨rfl, hlt⟩
  · cases h

theorem obtenerTimeStamp_spec (s : Estado) :
    Spec (obtenerTimeStamp s)
      (fun r => r.1 = s.contadorTimestamp ∧
        r.2 = { s with contadorTimestamp := s.contadorTimestamp + 1 })
      (· = .desbordamiento) := by
  refine (incrementar_spec s.contadorTimestamp).bind fun c hc => ?_
  subst hc
  exact ⟨rfl, rfl⟩

theorem obtenerTimeStampTLB_spec (s : Estado) :
    Spec (obtenerTimeStampTLB s)
      (fun r => SoloTlb s r.2 ∧ r.2.tlbList = s.tlbList ∧
        r.2.tlbFifoPointer = s.tlbFifoPointer)
      (· = .desbordamiento) := by
  refine (incrementar_spec s.contadorTimestampTlb).bind fun c hc => ?_
  exact ⟨⟨rfl, rfl, rfl, rfl, rfl, rfl, rfl, rfl, le_rfl⟩, rfl, rfl⟩

theorem soloTlb_setTlb (s : Estado) (entrada : ℕ) (f : Tlb → Tlb) :
    SoloTlb s (s.setTlb entrada f) :=
  ⟨rfl, rfl, rfl, rfl, rfl, rfl, rfl, rfl, le_rfl⟩

end SoloTlb

section Aciertos

variable {s : Estado}

/-- A count of hits or misses leaves the translation table alone. -/
structure SoloConteos (s s' : Estado) : Prop where
  solo : SoloTlb s s'
  tlbList : s'.tlbList = s.tlbList
  fifo : s'.tlbFifoPointer = s.tlbFifoPointer

theorem tlbHit_spec {p : ℕ} (hc : (getCarpincho (s.descriptor p).carpinchoPid s).isSome) :
    Spec (tlbHit p s) (fun s' => SoloConteos s s') (· = .desbordamiento) := by
  obtain ⟨c, hc⟩ := Option.isSome_iff_exists.1 hc
  unfold tlbHit
  rw [hc]
  refine (incrementar_spec c.tlbHits).bind fun hits _ => ?_
  refine (incrementar_spec s.tlbHitsTotales).bind fun totales _ => ?_
  exact ⟨⟨rfl, rfl, rfl, rfl, rfl, rfl, rfl, map_setCarpincho (fun _ => by rfl) c.pid s, le_rfl⟩,
    rfl, rfl⟩

theorem tlbMiss_spec {p : ℕ} (hc : (getCarpincho (s.descriptor p).carpinchoPid s).isSome) :
    Spec (tlbMiss p s) (fun s' => SoloConteos s s') (· = .desbordamiento) := by
  obtain ⟨c, hc⟩ := Option.isSome_iff_exists.1 hc
  unfold tlbMiss
  rw [hc]
  refine (incrementar_spec c.tlbMiss).bind fun miss _ => ?_
  refine (incrementar_spec s.tlbMissTotales).bind fun totales _ => ?_
  exact ⟨⟨rfl, rfl, rfl, rfl, rfl, rfl, rfl, map_setCarpincho (fun _ => by rfl) c.pid s, le_rfl⟩,
    rfl, rfl⟩

end Aciertos

section Invariante

variable {E : Entorno} {tlb tlb' : List Tlb} {marcos : List Marco}

/-- Non-empty entries agree with the frame table and have frames of their own. -/
structure TlbBien (E : Entorno) (tlb : List Tlb) (marcos : List Marco) : Prop where
  length : tlb.length = E.config.cantidaEntradasTlb
  entradas : (tlb.map Tlb.entrada).Nodup
  vacia : ∀ t ∈ tlb, t.pid = 0 → t.pagina = 0 ∧ t.marco = -1
  marco : ∀ t ∈ tlb, t.pid ≠ 0 →
    ∃ m ∈ marcos, m.marco = t.marco ∧ m.pid = t.pid ∧ m.pagina = t.pagina
  unico : ∀ t ∈ tlb, ∀ u ∈ tlb, t.pid ≠ 0 → u.pid ≠ 0 → t.marco = u.marco → t.entrada = u.entrada

/-- What the invariant says about an entry: everything but its time stamp. -/
def Tlb.clave (t : Tlb) : ℕ × ℤ × ℤ × ℤ := (t.entrada, t.pid, t.pagina, t.marco)

theorem exists_of_clave (h : tlb'.map Tlb.clave = tlb.map Tlb.clave) {t : Tlb} (ht : t ∈ tlb') :
    ∃ u ∈ tlb, u.entrada = t.entrada ∧ u.pid = t.pid ∧ u.pagina = t.pagina ∧
      u.marco = t.marco := by
  have hmem : t.clave ∈ tlb.map Tlb.clave := h ▸ List.mem_map_of_mem ht
  obtain ⟨u, hu, heq⟩ := List.mem_map.1 hmem
  simp only [Tlb.clave, Prod.mk.injEq] at heq
  exact ⟨u, hu, heq⟩

theorem TlbBien.of_clave (hb : TlbBien E tlb marcos)
    (h : tlb'.map Tlb.clave = tlb.map Tlb.clave) : TlbBien E tlb' marcos := by
  have hlength := congrArg List.length h
  have hentradas := congrArg (List.map Prod.fst) h
  simp only [List.length_map, List.map_map] at hlength hentradas
  refine ⟨hlength.trans hb.length, ?_, ?_, ?_, ?_⟩
  · exact (show tlb'.map Tlb.entrada = tlb.map Tlb.entrada from hentradas) ▸ hb.entradas
  · intro t ht h0
    obtain ⟨u, hu, -, hpid, hpag, hmarco⟩ := exists_of_clave h ht
    exact hpag ▸ hmarco ▸ hb.vacia u hu (hpid.trans h0)
  · intro t ht h0
    obtain ⟨u, hu, -, hpid, hpag, hmarco⟩ := exists_of_clave h ht
    exact hpid ▸ hpag ▸ hmarco ▸ hb.marco u hu (hpid ▸ h0)
  · intro t ht t' ht' h0 h0' heq
    obtain ⟨u, hu, hent, hpid, -, hmarco⟩ := exists_of_clave h ht
    obtain ⟨u', hu', hent', hpid', -, hmarco'⟩ := exists_of_clave h ht'
    rw [← hent, ← hent']
    exact hb.unico u hu u' hu' (hpid ▸ h0) (hpid' ▸ h0') (by rw [hmarco, hmarco', heq])

theorem TlbBien.perm (hb : TlbBien E tlb marcos) (h : tlb'.Perm tlb) :
    TlbBien E tlb' marcos :=
  ⟨h.length_eq.trans hb.length, (h.map Tlb.entrada).nodup_iff.2 hb.entradas,
    fun t ht => hb.vacia t (h.mem_iff.1 ht), fun t ht => hb.marco t (h.mem_iff.1 ht),
    fun t ht u hu => hb.unico t (h.mem_iff.1 ht) u (h.mem_iff.1 hu)⟩

theorem TlbBien.marcos_mono {marcos' : List Marco} (hb : TlbBien E tlb marcos)
    (h : ∀ t ∈ tlb, t.pid ≠ 0 → ∀ m ∈ marcos, m.marco = t.marco → m.pid = t.pid → m ∈ marcos') :
    TlbBien E tlb marcos' := by
  refine ⟨hb.length, hb.entradas, hb.vacia, fun t ht h0 => ?_, hb.unico⟩
  obtain ⟨m, hm, hmarco, hpid, hpag⟩ := hb.marco t ht h0
  exact ⟨m, h t ht h0 m hm hmarco hpid, hmarco, hpid, hpag⟩

theorem setTlb_tlbList (s : Estado) (entrada : ℕ) (f : Tlb → Tlb) :
    (s.setTlb entrada f).tlbList = s.tlbList.map fun t => if t.entrada = entrada then f t else t :=
  rfl

theorem TlbBien.eq_of_entrada (hb : TlbBien E tlb marcos) {t u : Tlb} (ht : t ∈ tlb)
    (hu : u ∈ tlb) (h : t.entrada = u.entrada) : t = u :=
  List.inj_on_of_nodup_map hb.entradas ht hu h

theorem entradas_map {f : Tlb → Tlb} (hf : ∀ t, (f t).entrada = t.entrada) (entrada : ℕ) :
    (tlb.map fun t => if t.entrada = entrada then f t else t).map Tlb.entrada =
      tlb.map Tlb.entrada := by
  rw [List.map_map]
  refine List.map_congr_left fun t _ => ?_
  simp only [Function.comp_apply]
  split
  · exact hf t
  · rfl

theorem mem_of_mem_vaciar {entrada : ℕ} {t : Tlb}
    (ht : t ∈ tlb.map fun t => if t.entrada = entrada then t.vacia else t) (h0 : t.pid ≠ 0) :
    t ∈ tlb ∧ t.entrada ≠ entrada := by
  obtain ⟨u, hu, rfl⟩ := List.mem_map.1 ht
  by_cases h : u.entrada = entrada
  · simp [h, Tlb.vacia] at h0
  · simpa [h] using hu

theorem TlbBien.vaciar (hb : TlbBien E tlb marcos) (entrada : ℕ) :
    TlbBien E (tlb.map fun t => if t.entrada = entrada then t.vacia else t) marcos := by
  refine ⟨by simpa using hb.length, ?_, ?_, ?_, ?_⟩
  · rw [entradas_map (f := Tlb.vacia) fun _ => rfl]
    exact hb.entradas
  · intro t ht h0
    obtain ⟨u, hu, rfl⟩ := List.mem_map.1 ht
    by_cases h : u.entrada = entrada
    · simp [h, Tlb.vacia]
    · simp only [h, if_false] at h0 ⊢
      exact hb.vacia u hu h0
  · intro t ht h0
    exact hb.marco t (mem_of_mem_vaciar ht h0).1 h0
  · intro t ht u hu h0 h0'
    exact hb.unico t (mem_of_mem_vaciar ht h0).1 u (mem_of_mem_vaciar hu h0').1 h0 h0'

/-- Loading a page whose frame has no entry into an empty entry keeps the invariant. -/
theorem TlbBien.cargar (hb : TlbBien E tlb marcos) {e : Tlb} (he : e ∈ tlb) (hvacia : e.pid = 0)
    {pid pagina marco : ℤ} (ts : ℕ) (hpid : pid ≠ 0)
    (hmarco : ∃ m ∈ marcos, m.marco = marco ∧ m.pid = pid ∧ m.pagina = pagina)
    (hlibre : ∀ t ∈ tlb, t.marco ≠ marco) :
    TlbBien E (tlb.map fun t => if t.entrada = e.entrada then
      { t with pid := pid, pagina := pagina, marco := marco, timestamp := ts } else t) marcos := by
  have hcases : ∀ t ∈ tlb.map (fun t => if t.entrada = e.entrada then
      { t with pid := pid, pagina := pagina, marco := marco, timestamp := ts } else t),
      t = { e with pid := pid, pagina := pagina, marco := marco, timestamp := ts } ∨
        (t ∈ tlb ∧ t.entrada ≠ e.entrada) := by
    intro t ht
    obtain ⟨u, hu, rfl⟩ := List.mem_map.1 ht
    by_cases h : u.entrada = e.entrada
    · obtain rfl := hb.eq_of_entrada hu he h
      exact Or.inl (if_pos rfl)
    · refine Or.inr ?_
      simpa [h] using hu
  refine ⟨by simpa using hb.length, ?_, ?_, ?_, ?_⟩
  · rw [entradas_map (f := fun t =>
      { t with pid := pid, pagina := pagina, marco := marco, timestamp := ts }) fun _ => rfl]
    exact hb.entradas
  · intro t ht h0
    rcases hcases t ht with rfl | ⟨ht, -⟩
    · exact absurd h0 hpid
    · exact hb.vacia t ht h0
  · intro t ht h0
    rcases hcases t ht with rfl | ⟨ht, -⟩
    · exact hmarco
    · exact hb.marco t ht h0
  · intro t ht u hu h0 h0' heq
    rcases hcases t ht with rfl | ⟨ht, -⟩ <;> rcases hcases u hu with rfl | ⟨hu, -⟩
    · rfl
    · exact absurd heq.symm (hlibre u hu)
    · exact absurd heq (hlibre t ht)
    · exact hb.unico t ht u hu h0 h0' heq

end Invariante

section Estado

variable {E : Entorno} {s s' : Estado}

/-- The TLB of a state agrees with its frames, and the FIFO pointer is an index. -/
structure TlbEstado (E : Entorno) (s : Estado) : Prop where
  bien : TlbBien E s.tlbList s.marcosList
  fifo : s.tlbFifoPointer < E.config.cantidaEntradasTlb

theorem TlbEstado.of_conteos (h : TlbEstado E s) (hc : SoloConteos s s') : TlbEstado E s' := by
  refine ⟨?_, hc.fifo ▸ h.fifo⟩
  rw [hc.tlbList, hc.solo.marcosList]
  exact h.bien

theorem esEntradaDe_congr {p : ℕ} (h : s'.descriptor = s.descriptor) :
    esEntradaDe p s' = esEntradaDe p s := by
  funext t
  simp [esEntradaDe, h]

theorem paginaIsInTlb_iff {p : ℕ} : paginaIsInTlb p s = true ↔
    ∃ t ∈ s.tlbList, t.pid = (s.descriptor p).carpinchoPid ∧
      t.pagina = (s.descriptor p).pagina := by
  simp [paginaIsInTlb, esEntradaDe]

theorem getTlbItem_some {p : ℕ} (h : paginaIsInTlb p s = true) :
    ∃ t, getTlbItem p s = some t ∧ t ∈ s.tlbList ∧
      t.pid = (s.descriptor p).carpinchoPid ∧ t.pagina = (s.descriptor p).pagina := by
  obtain ⟨u, hu, hkey⟩ := paginaIsInTlb_iff.1 h
  cases ht : getTlbItem p s with
  | none => simpa [esEntradaDe, hkey] using List.find?_eq_none.1 ht u hu
  | some t => exact ⟨t, rfl, List.mem_of_find?_eq_some ht, by
      simpa [esEntradaDe] using List.find?_some ht⟩

theorem refrescarTlb_spec {p : ℕ} (h : TlbEstado E s) (hp : paginaIsInTlb p s = true) :
    Spec (refrescarTlb E p s)
      (fun s' => SoloTlb s s' ∧ TlbEstado E s' ∧ paginaIsInTlb p s' = true)
      (· = .desbordamiento) := by
  unfold refrescarTlb
  split
  · exact ⟨.refl s, h, hp⟩
  · obtain ⟨t, ht, -⟩ := getTlbItem_some hp
    rw [ht]
    refine (obtenerTimeStamp_spec s).bind fun r hr => ?_
    obtain ⟨ts, s₁⟩ := r
    obtain ⟨rfl, rfl⟩ := hr
    have hclave : ((s.tlbList.map fun u => if u.entrada = t.entrada then
        { u with timestamp := s.contadorTimestamp } else u).map Tlb.clave) =
        s.tlbList.map Tlb.clave := by
      rw [List.map_map]
      refine List.map_congr_left fun u _ => ?_
      simp only [Function.comp_apply]
      split <;> rfl
    refine ⟨⟨rfl, rfl, rfl, rfl, rfl, rfl, rfl, rfl, Nat.le_succ _⟩,
      ⟨h.bien.of_clave hclave, h.fifo⟩, paginaIsInTlb_iff.2 ?_⟩
    obtain ⟨u, hu, hkey⟩ := paginaIsInTlb_iff.1 hp
    obtain ⟨w, hw, -, hpid, hpag, -⟩ := exists_of_clave hclave.symm hu
    exact ⟨w, hw, by rw [hpid]; exact hkey.1, by rw [hpag]; exact hkey.2⟩

theorem mem_ordenarPor {α : Type} (clave : α → ℤ) (l : List α) :
    (ordenarPor E clave l).Perm l :=
  E.listSort_perm _ l

theorem anyTlbItemIsFree_some (h : anyTlbItemIsFree s = true) :
    ∃ t, getNextFreeTlbItem s = some t ∧ t ∈ s.tlbList ∧ t.pid = 0 := by
  obtain ⟨u, hu, hfree⟩ : ∃ u ∈ s.tlbList, u.pid = 0 := by
    simpa [anyTlbItemIsFree] using h
  cases ht : getNextFreeTlbItem s with
  | none => simpa [hfree] using List.find?_eq_none.1 ht u hu
  | some t => exact ⟨t, rfl, List.mem_of_find?_eq_some ht, by simpa using List.find?_some ht⟩

/-- The entry that is taken out is one of the TLB, whose list is at most reordered. -/
structure Sacada (s : Estado) (t : Tlb) (s' : Estado) : Prop where
  mem : t ∈ s'.tlbList
  solo : SoloTlb s s'
  perm : s'.tlbList.Perm s.tlbList

theorem Sacada.libre (h : anyTlbItemIsFree s = true) :
    ∃ t, getNextFreeTlbItem s = some t ∧ Sacada s t s := by
  obtain ⟨t, ht, hmem, -⟩ := anyTlbItemIsFree_some h
  exact ⟨t, ht, hmem, .refl s, List.Perm.refl _⟩

theorem proximaPaginaASacarTlbByLru_sacada (h : 0 < s.tlbList.length) :
    ∃ t s', proximaPaginaASacarTlbByLru E s = .ok (t, s') ∧ Sacada s t s' ∧
      s'.tlbFifoPointer = s.tlbFifoPointer := by
  unfold proximaPaginaASacarTlbByLru
  split
  · next hfree =>
    obtain ⟨t, ht, hsacada⟩ := Sacada.libre hfree
    rw [ht]
    exact ⟨t, s, rfl, hsacada, rfl⟩
  · let l := ordenarPor E (fun t : Tlb => (t.timestamp : ℤ))
      (ordenarPor E (fun t : Tlb => (t.entrada : ℤ)) s.tlbList)
    have hperm : l.Perm s.tlbList := (mem_ordenarPor _ _).trans (mem_ordenarPor _ _)
    have hpos : 0 < l.length := by
      rw [hperm.length_eq]
      exact h
    have hget : listGet l 0 = some l[0] := by
      simp [listGet, List.getElem?_eq_getElem hpos]
    refine ⟨l[0], { s with tlbList := l }, ?_, ⟨List.getElem_mem hpos,
      ⟨rfl, rfl, rfl, rfl, rfl, rfl, rfl, rfl, le_rfl⟩, hperm⟩, rfl⟩
    simp only [show ordenarPor E _ (ordenarPor E _ s.tlbList) = l from rfl, hget]

theorem proximaPaginaASacarTlbByFifo_sacada (h : s.tlbFifoPointer < s.tlbList.length) :
    ∃ t s', proximaPaginaASacarTlbByFifo E s = .ok (t, s') ∧ Sacada s t s' ∧
      (s.tlbFifoPointer < E.config.cantidaEntradasTlb →
        s'.tlbFifoPointer < E.config.cantidaEntradasTlb) := by
  unfold proximaPaginaASacarTlbByFifo
  split
  · next hfree =>
    obtain ⟨t, ht, hsacada⟩ := Sacada.libre hfree
    rw [ht]
    exact ⟨t, s, rfl, hsacada, fun hfifo => hfifo⟩
  · let l := ordenarPor E (fun t : Tlb => (t.entrada : ℤ)) s.tlbList
    have hperm : l.Perm s.tlbList := mem_ordenarPor _ _
    have hlt : s.tlbFifoPointer < l.length := by
      rw [hperm.length_eq]
      exact h
    have hget : listGet l s.tlbFifoPointer = some l[s.tlbFifoPointer] := by
      simp [listGet, List.getElem?_eq_getElem hlt]
    let siguiente :=
      if E.config.cantidaEntradasTlb < s.tlbFifoPointer + 1 + 1 then 0 else s.tlbFifoPointer + 1
    have hsiguiente : s.tlbFifoPointer < E.config.cantidaEntradasTlb →
        siguiente < E.config.cantidaEntradasTlb := by
      intro hfifo
      simp only [siguiente]
      split <;> omega
    refine ⟨l[s.tlbFifoPointer], { s with tlbList := l, tlbFifoPointer := siguiente }, ?_,
      ⟨List.getElem_mem hlt, ⟨rfl, rfl, rfl, rfl, rfl, rfl, rfl, rfl, le_rfl⟩, hperm⟩, hsiguiente⟩
    simp only [show ordenarPor E _ s.tlbList = l from rfl, hget]
    rfl

theorem proximaPaginaASacarTlb_sacada (h : s.tlbFifoPointer < s.tlbList.length) :
    ∃ t s', proximaPaginaASacarTlb E s = .ok (t, s') ∧ Sacada s t s' ∧
      (s.tlbFifoPointer < E.config.cantidaEntradasTlb →
        s'.tlbFifoPointer < E.config.cantidaEntradasTlb) := by
  unfold proximaPaginaASacarTlb
  split
  · obtain ⟨t, s', heq, hsacada, hfifo⟩ :=
      proximaPaginaASacarTlbByLru_sacada (E := E) (lt_of_le_of_lt (Nat.zero_le _) h)
    exact ⟨t, s', heq, hsacada, fun hlt => lt_of_eq_of_lt hfifo hlt⟩
  · exact proximaPaginaASacarTlbByFifo_sacada h

/-- The entry that leaves the TLB is one of its entries; the list is at most reordered. -/
structure Saliente (E : Entorno) (s : Estado) (t : Tlb) (s' : Estado) : Prop where
  mem : t ∈ s'.tlbList
  solo : SoloTlb s s'
  estado : TlbEstado E s'
  perm : s'.tlbList.Perm s.tlbList

theorem proximaPaginaASacarTlb_spec (h : TlbEstado E s) :
    ∃ t s', proximaPaginaASacarTlb E s = .ok (t, s') ∧ Saliente E s t s' := by
  have hlt : s.tlbFifoPointer < s.tlbList.length := by
    rw [h.bien.length]
    exact h.fifo
  obtain ⟨t, s', heq, hsacada, hfifo⟩ := proximaPaginaASacarTlb_sacada (E := E) hlt
  have hbien : TlbBien E s'.tlbList s'.marcosList := by
    rw [hsacada.solo.marcosList]
    exact h.bien.perm hsacada.perm
  exact ⟨t, s', heq, hsacada.mem, hsacada.solo, ⟨hbien, hfifo h.fifo⟩, hsacada.perm⟩

def EnMarco (p : ℕ) (marco : ℤ) (s : Estado) : Prop :=
  ∃ m ∈ s.marcosList, m.marco = marco ∧ m.pid = (s.descriptor p).carpinchoPid ∧
    m.pagina = (s.descriptor p).pagina

theorem cargarPaginaPaginaTlb_spec {p : ℕ} {marco : ℤ} (h : TlbEstado E s)
    (hvacia : anyTlbItemIsFree s = true) (hpid : (s.descriptor p).carpinchoPid ≠ 0)
    (hen : EnMarco p marco s) (hlibre : ∀ t ∈ s.tlbList, t.marco ≠ marco) :
    Spec (cargarPaginaPaginaTlb p marco s)
      (fun s' => SoloTlb s s' ∧ TlbEstado E s' ∧ paginaIsInTlb p s' = true)
      (· = .desbordamiento) := by
  obtain ⟨e, he, hmem, hvacia⟩ := anyTlbItemIsFree_some hvacia
  unfold cargarPaginaPaginaTlb
  rw [he]
  refine (obtenerTimeStampTLB_spec s).bind fun r hr => ?_
  obtain ⟨ts, s₁⟩ := r
  obtain ⟨hsolo, hlist, hfifo⟩ := hr
  have hfinal := hsolo.trans (soloTlb_setTlb s₁ e.entrada fun t =>
    { t with pid := (s.descriptor p).carpinchoPid, pagina := (s.descriptor p).pagina,
             marco := marco, timestamp := ts })
  refine ⟨hfinal, ⟨?_, lt_of_eq_of_lt hfifo h.fifo⟩, paginaIsInTlb_iff.2 ?_⟩
  · rw [hfinal.marcosList, setTlb_tlbList, hlist]
    exact h.bien.cargar hmem hvacia ts hpid hen hlibre
  · rw [hfinal.descriptor, setTlb_tlbList, hlist]
    exact ⟨_, List.mem_map.2 ⟨e, hmem, if_pos rfl⟩, rfl, rfl⟩

theorem actualizarTlb_spec {p : ℕ} {marco : ℤ} (h : TlbEstado E s) (hmarco : marco ≠ -1)
    (hpid : (s.descriptor p).carpinchoPid ≠ 0) (hen : EnMarco p marco s)
    (hlibre : ∀ t ∈ s.tlbList, t.marco ≠ marco) :
    Spec (actualizarTlb E p marco s)
      (fun s' => SoloTlb s s' ∧ TlbEstado E s' ∧ paginaIsInTlb p s' = true)
      (· = .desbordamiento) := by
  have hno : isMarcoInTlb marco s = false := by
    simpa [isMarcoInTlb] using hlibre
  unfold actualizarTlb
  rw [if_neg hmarco, hno]
  obtain ⟨t, s₁, heq, hsaliente⟩ := proximaPaginaASacarTlb_spec h
  rw [heq]
  simp only [ok_bind, Bool.false_eq_true, if_false]
  have hsolo := hsaliente.solo.trans (soloTlb_setTlb s₁ t.entrada Tlb.vacia)
  have hestado : TlbEstado E (vaciarPaginaTlb t.entrada s₁) :=
    ⟨hsaliente.estado.bien.vaciar t.entrada, hsaliente.estado.fifo⟩
  have hvacia : anyTlbItemIsFree (vaciarPaginaTlb t.entrada s₁) = true :=
    List.any_eq_true.2
      ⟨t.vacia, List.mem_map.2 ⟨t, hsaliente.mem, if_pos rfl⟩, by simp [Tlb.vacia]⟩
  have hlibre' : ∀ u ∈ (vaciarPaginaTlb t.entrada s₁).tlbList, u.marco ≠ marco := by
    intro u hu
    obtain ⟨w, hw, rfl⟩ := List.mem_map.1 hu
    split
    · exact fun heq => hmarco heq.symm
    · exact hlibre w (hsaliente.perm.mem_iff.1 hw)
  have hdesc : (vaciarPaginaTlb t.entrada s₁).descriptor = s.descriptor := hsolo.descriptor
  have hen' : EnMarco p marco (vaciarPaginaTlb t.entrada s₁) := by
    unfold EnMarco
    rw [hdesc, show (vaciarPaginaTlb t.entrada s₁).marcosList = _ from hsolo.marcosList]
    exact hen
  refine (cargarPaginaPaginaTlb_spec hestado hvacia (hdesc ▸ hpid) hen' hlibre').mono
    (fun s' hs' => ?_) fun _ he => he
  exact ⟨hsolo.trans hs'.1, hs'.2⟩

end Estado

end Carpinchos.Memoria
