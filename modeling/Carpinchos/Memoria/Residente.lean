import Carpinchos.Memoria.SimulacionTraduccion

/-!
# Access to a page that is in memory

A page that a frame holds is found there, with or without an entry in the TLB. The access
reads or writes the bytes of that frame and nothing else that another access can see: the
frames, the names of the pages and the messages to SWAmP stay as they were.
-/

namespace Carpinchos.Memoria

open Outcome Estado Bytes

variable {E : Entorno} {s s' s'' : Estado} {p q j k : ℕ}

section Definiciones

structure Residente (E : Entorno) (s : Estado) (p k : ℕ) : Prop where
  viva : (s.descriptor p).liberada = false
  pid_ne : (s.descriptor p).carpinchoPid ≠ 0
  carpincho : (getCarpincho (s.descriptor p).carpinchoPid s).isSome = true
  marco : ∃ m ∈ s.marcosList, m.marco = k
  marcos : ∀ m ∈ s.marcosList, esMarcoDe p s m = true ↔ m.marco = k
  lt : k < E.config.cantidadMarcos

/-- What the accesses to pages in memory leave as it was. -/
structure Quieta (E : Entorno) (s s' : Estado) : Prop where
  marcosList : s'.marcosList = s.marcosList
  mensajes : s'.mensajes = s.mensajes
  carpinchos : s'.carpinchosList.map Carpincho.sinConteos =
    s.carpinchosList.map Carpincho.sinConteos
  nombres : ∀ q, (s'.descriptor q).carpinchoPid = (s.descriptor q).carpinchoPid ∧
    (s'.descriptor q).pagina = (s.descriptor q).pagina
  liberadas : ∀ q, (s'.descriptor q).liberada = (s.descriptor q).liberada
  tlb : TlbEstado E s'

instance (E : Entorno) (s : Estado) (p k : ℕ) : Decidable (Residente E s p k) :=
  decidable_of_iff ((s.descriptor p).liberada = false ∧ (s.descriptor p).carpinchoPid ≠ 0 ∧
      (getCarpincho (s.descriptor p).carpinchoPid s).isSome = true ∧
      (∃ m ∈ s.marcosList, m.marco = k) ∧
      (∀ m ∈ s.marcosList, esMarcoDe p s m = true ↔ m.marco = k) ∧
      k < E.config.cantidadMarcos)
    ⟨fun h => ⟨h.1, h.2.1, h.2.2.1, h.2.2.2.1, h.2.2.2.2.1, h.2.2.2.2.2⟩,
      fun h => ⟨h.viva, h.pid_ne, h.carpincho, h.marco, h.marcos, h.lt⟩⟩

instance (E : Entorno) (s : Estado) : Decidable (TlbEstado E s) :=
  decidable_of_iff ((s.tlbList.length = E.config.cantidaEntradasTlb ∧
      (s.tlbList.map Tlb.entrada).Nodup ∧
      (∀ t ∈ s.tlbList, t.pid = 0 → t.pagina = 0 ∧ t.marco = -1) ∧
      (∀ t ∈ s.tlbList, t.pid ≠ 0 →
        ∃ m ∈ s.marcosList, m.marco = t.marco ∧ m.pid = t.pid ∧ m.pagina = t.pagina) ∧
      ∀ t ∈ s.tlbList, ∀ u ∈ s.tlbList, t.pid ≠ 0 → u.pid ≠ 0 → t.marco = u.marco →
        t.entrada = u.entrada) ∧ s.tlbFifoPointer < E.config.cantidaEntradasTlb)
    ⟨fun h => ⟨⟨h.1.1, h.1.2.1, h.1.2.2.1, h.1.2.2.2.1, h.1.2.2.2.2⟩, h.2⟩,
      fun h => ⟨⟨h.bien.length, h.bien.entradas, h.bien.vacia, h.bien.marco, h.bien.unico⟩,
        h.fifo⟩⟩

end Definiciones

section Quieta

theorem Quieta.refl (h : TlbEstado E s) : Quieta E s s :=
  ⟨rfl, rfl, rfl, fun _ => ⟨rfl, rfl⟩, fun _ => rfl, h⟩

theorem Quieta.trans (h : Quieta E s s') (h' : Quieta E s' s'') : Quieta E s s'' where
  marcosList := h'.marcosList.trans h.marcosList
  mensajes := h'.mensajes.trans h.mensajes
  carpinchos := h'.carpinchos.trans h.carpinchos
  nombres := fun q =>
    ⟨(h'.nombres q).1.trans (h.nombres q).1, (h'.nombres q).2.trans (h.nombres q).2⟩
  liberadas := fun q => (h'.liberadas q).trans (h.liberadas q)
  tlb := h'.tlb

theorem Quieta.of_soloTlb (h : SoloTlb s s') (ht : TlbEstado E s') : Quieta E s s' where
  marcosList := h.marcosList
  mensajes := h.mensajes
  carpinchos := h.carpinchos
  nombres := fun q => by rw [h.descriptor]; exact ⟨rfl, rfl⟩
  liberadas := fun q => by rw [h.descriptor]
  tlb := ht

theorem Quieta.setPagina (h : Quieta E s s') {f : Pagina → Pagina}
    (hpid : ∀ d, (f d).carpinchoPid = d.carpinchoPid) (hpagina : ∀ d, (f d).pagina = d.pagina)
    (hviva : ∀ d, (f d).liberada = d.liberada) : Quieta E s (s'.setPagina p f) where
  marcosList := h.marcosList
  mensajes := h.mensajes
  carpinchos := h.carpinchos
  nombres := fun q => by
    rcases eq_or_ne q p with rfl | hqp
    · simp only [Estado.setPagina, Function.update_self, hpid, hpagina]
      exact h.nombres q
    · simp only [Estado.setPagina, Function.update_of_ne hqp]
      exact h.nombres q
  liberadas := fun q => by
    rcases eq_or_ne q p with rfl | hqp
    · simp only [Estado.setPagina, Function.update_self, hviva]
      exact h.liberadas q
    · simp only [Estado.setPagina, Function.update_of_ne hqp]
      exact h.liberadas q
  tlb := ⟨h.tlb.bien, h.tlb.fifo⟩

theorem getCarpincho_of_sinConteos (h : s'.carpinchosList.map Carpincho.sinConteos =
    s.carpinchosList.map Carpincho.sinConteos) (pid : ℤ) :
    (getCarpincho pid s').map Carpincho.sinConteos =
      (getCarpincho pid s).map Carpincho.sinConteos := by
  have hfind : ∀ l : List Carpincho, (l.find? fun c => c.pid = pid).map Carpincho.sinConteos =
      (l.map Carpincho.sinConteos).find? fun c => c.pid = pid := by
    intro l
    rw [List.find?_map]
    rfl
  rw [getCarpincho, getCarpincho, hfind, hfind, h]

theorem Quieta.getCarpincho (h : Quieta E s s') {pid : ℤ} {c : Carpincho}
    (hc : getCarpincho pid s = some c) :
    ∃ d, getCarpincho pid s' = some d ∧ d.sinConteos = c.sinConteos := by
  have heq := getCarpincho_of_sinConteos h.carpinchos pid
  rw [hc] at heq
  exact Option.map_eq_some_iff.1 heq

theorem Quieta.esMarcoDe (h : Quieta E s s') (q : ℕ) : esMarcoDe q s' = esMarcoDe q s := by
  funext m
  simp only [Memoria.esMarcoDe, h.nombres q]

theorem Quieta.residente (h : Quieta E s s') (hr : Residente E s q k) : Residente E s' q k where
  viva := (h.liberadas q).trans hr.viva
  pid_ne := by
    rw [(h.nombres q).1]
    exact hr.pid_ne
  carpincho := by
    obtain ⟨c, hc⟩ := Option.isSome_iff_exists.1 hr.carpincho
    obtain ⟨d, hd, -⟩ := h.getCarpincho hc
    rw [(h.nombres q).1, hd]
    rfl
  marco := by
    rw [h.marcosList]
    exact hr.marco
  marcos := by
    rw [h.marcosList, h.esMarcoDe q]
    exact hr.marcos
  lt := hr.lt

end Quieta

section Traduccion

theorem Residente.esMarcoDe {m : Marco} (h : Residente E s p k) (hm : m ∈ s.marcosList)
    (hk : m.marco = k) : m.pid = (s.descriptor p).carpinchoPid ∧
      m.pagina = (s.descriptor p).pagina := by
  have hes := (h.marcos m hm).2 hk
  simpa [Memoria.esMarcoDe] using hes

theorem Residente.enMarco (h : Residente E s p k) : EnMarco p k s := by
  obtain ⟨m, hm, hk⟩ := h.marco
  exact ⟨m, hm, hk, h.esMarcoDe hm hk⟩

theorem Residente.paginaIsInCache (h : Residente E s p k) : paginaIsInCache p s = true := by
  obtain ⟨m, hm, hk⟩ := h.marco
  exact List.any_eq_true.2 ⟨m, hm, (h.marcos m hm).2 hk⟩

theorem Residente.obtenerMarcoDeCache (h : Residente E s p k) : obtenerMarcoDeCache p s = k := by
  unfold Memoria.obtenerMarcoDeCache
  cases hfind : s.marcosList.find? (Memoria.esMarcoDe p s) with
  | none =>
    obtain ⟨m, hm, hk⟩ := h.marco
    exact absurd ((h.marcos m hm).2 hk) (List.find?_eq_none.1 hfind m hm)
  | some m => exact (h.marcos m (List.mem_of_find?_eq_some hfind)).1 (List.find?_some hfind)

theorem Residente.entrada (h : Residente E s p k) (htlb : TlbEstado E s) {t : Tlb}
    (ht : t ∈ s.tlbList) (hpid : t.pid = (s.descriptor p).carpinchoPid)
    (hpagina : t.pagina = (s.descriptor p).pagina) : t.marco = k := by
  obtain ⟨m, hm, hmarco, hmpid, hmpagina⟩ := htlb.bien.marco t ht (hpid ▸ h.pid_ne)
  rw [← hmarco, ← h.marcos m hm]
  simp [Memoria.esMarcoDe, hmpid, hmpagina, hpid, hpagina]

theorem Residente.sin_entrada (h : Residente E s p k) (htlb : TlbEstado E s)
    (hno : ¬ paginaIsInTlb p s = true) : ∀ t ∈ s.tlbList, t.marco ≠ k := by
  intro t ht hk
  have hpid : t.pid ≠ 0 := by
    intro h0
    have := (htlb.bien.vacia t ht h0).2
    omega
  obtain ⟨m, hm, hmarco, hmpid, hmpagina⟩ := htlb.bien.marco t ht hpid
  obtain ⟨hpid', hpagina'⟩ := h.esMarcoDe hm (hmarco.trans hk)
  exact hno (paginaIsInTlb_iff.2 ⟨t, ht, hmpid.symm.trans hpid', hmpagina.symm.trans hpagina'⟩)

theorem Residente.getMarcoDeTlb (h : Residente E s p k) (htlb : TlbEstado E s)
    (hen : paginaIsInTlb p s = true) (obtenerMarco : ℕ → Estado → Except Falla (ℤ × Estado)) :
    getMarcoDeTlb obtenerMarco p s = .ok ((k : ℤ), s) := by
  obtain ⟨t, ht, hmem, hpid, hpagina⟩ := getTlbItem_some hen
  have hk := h.entrada htlb hmem hpid hpagina
  unfold Memoria.getMarcoDeTlb
  rw [if_pos hen, ht]
  dsimp only
  rw [hk]
  cases hfind : getMarcoByMarcoNumber k s with
  | none =>
    obtain ⟨m, hm, hmk⟩ := h.marco
    exact absurd hmk (by simpa using List.find?_eq_none.1 hfind m hm)
  | some m =>
    have hmk : m.marco = k := by simpa using List.find?_some hfind
    dsimp only
    rw [if_pos ((h.marcos m (List.mem_of_find?_eq_some hfind)).2 hmk)]

/-- The page has been found in its frame, and the TLB has an entry for it. -/
structure Hallada (E : Entorno) (p k : ℕ) (s : Estado) (marco : ℤ) (s' : Estado) : Prop where
  marco : marco = k
  solo : SoloTlb s s'
  tlb : TlbEstado E s'
  enTlb : paginaIsInTlb p s' = true

theorem obtenerMarcoParaPagina_residente (h : Residente E s p k) (htlb : TlbEstado E s)
    (fuel : ℕ) :
    Spec (obtenerMarcoParaPagina E (fuel + 1) p s) (fun r => Hallada E p k s r.1 r.2)
      EsDesbordamiento := by
  rw [obtenerMarcoParaPagina]
  by_cases hen : paginaIsInTlb p s = true
  · rw [if_pos hen]
    refine (tlbHit_spec h.carpincho).bind fun s₁ hs₁ => ?_
    have htlb₁ := htlb.of_conteos hs₁
    have hr₁ := (Quieta.of_soloTlb hs₁.solo htlb₁).residente h
    have hen₁ : paginaIsInTlb p s₁ = true := by
      rw [paginaIsInTlb, hs₁.tlbList, esEntradaDe_congr hs₁.solo.descriptor]
      exact hen
    rw [hr₁.getMarcoDeTlb htlb₁ hen₁, ok_bind]
    refine (refrescarTlb_spec htlb₁ hen₁).bind fun s₂ hs₂ => ?_
    exact ⟨rfl, hs₁.solo.trans hs₂.1, hs₂.2.1, hs₂.2.2⟩
  · rw [if_neg hen, obtenerMarcoSinTlb, if_pos h.paginaIsInCache]
    have hmarco : Spec (do
        let s ← tlbMiss p s
        .ok (Memoria.obtenerMarcoDeCache p s, s))
        (fun r => r.1 = (k : ℤ) ∧ SoloConteos s r.2) EsDesbordamiento := by
      refine (tlbMiss_spec h.carpincho).bind fun s₁ hs₁ => ?_
      have hr₁ := (Quieta.of_soloTlb hs₁.solo (htlb.of_conteos hs₁)).residente h
      exact ⟨hr₁.obtenerMarcoDeCache, hs₁⟩
    refine hmarco.bind fun r hr => ?_
    obtain ⟨marco, s₁⟩ := r
    obtain ⟨rfl, hs₁⟩ := hr
    have htlb₁ := htlb.of_conteos hs₁
    have hr₁ := (Quieta.of_soloTlb hs₁.solo htlb₁).residente h
    have hno₁ : ¬ paginaIsInTlb p s₁ = true := by
      rw [paginaIsInTlb, hs₁.tlbList, esEntradaDe_congr hs₁.solo.descriptor]
      exact hen
    refine (actualizarTlb_spec htlb₁ (by omega) hr₁.pid_ne hr₁.enMarco
      (hr₁.sin_entrada htlb₁ hno₁)).bind fun s₂ hs₂ => ?_
    exact ⟨rfl, hs₁.solo.trans hs₂.1, hs₂.2.1, hs₂.2.2⟩

end Traduccion

section Accesos

theorem traerPagina_residente (h : Residente E s p k) (htlb : TlbEstado E s) :
    Spec (traerPagina E p s)
      (fun r => r.1 = some (k : ℤ) ∧ Quieta E s r.2 ∧ r.2.cache = s.cache) EsDesbordamiento := by
  have hlegible : paginasLegibles [p] s = .ok () := by simp [paginasLegibles, h.viva]
  have hrefrescada : Spec (if paginaIsInTlb p s then refrescarTlb E p s else .ok s)
      (fun s' => SoloTlb s s' ∧ TlbEstado E s') EsDesbordamiento := by
    split
    · next hen =>
      exact (refrescarTlb_spec htlb hen).mono (fun s' hs' => ⟨hs'.1, hs'.2.1⟩) fun _ he => he
    · exact ⟨.refl s, htlb⟩
  unfold traerPagina
  rw [hlegible, ok_bind]
  refine hrefrescada.bind fun s₁ hs₁ => ?_
  have hquieta := Quieta.of_soloTlb hs₁.1 hs₁.2
  refine (obtenerMarcoParaPagina_residente (hquieta.residente h) hs₁.2 _).bind fun r hr => ?_
  obtain ⟨marco, s₂⟩ := r
  have hquieta₂ := hquieta.trans (Quieta.of_soloTlb hr.solo hr.tlb)
  obtain rfl : marco = k := hr.marco
  have hk : (k : ℤ) ≠ -1 := by omega
  have hquieta₃ := (hquieta₂.setPagina (p := p) (f := fun q => { q with marco := (k : ℤ) })
    (fun _ => rfl) (fun _ => rfl) (fun _ => rfl)).setPagina (p := p)
    (f := fun q => { q with bitPresencia := true }) (fun _ => rfl) (fun _ => rfl) (fun _ => rfl)
  have hcache := (hquieta₃.residente h).paginaIsInCache
  have hen : paginaIsInTlb p ((s₂.setPagina p fun q => { q with marco := (k : ℤ) }).setPagina p
      fun q => { q with bitPresencia := true }) = true := by
    obtain ⟨t, ht, hpid, hpag⟩ := paginaIsInTlb_iff.1 hr.enTlb
    refine paginaIsInTlb_iff.2 ⟨t, ht, ?_, ?_⟩
    · simpa [Estado.setPagina] using hpid
    · simpa [Estado.setPagina] using hpag
  simp only [if_neg hk, hcache, hen, Bool.and_self, if_true]
  exact ⟨rfl, hquieta₃, hr.solo.cache.trans hs₁.1.cache⟩

theorem marcarAcceso_quieta (h : Quieta E s s') (esEscritura : Bool) (p : ℕ) :
    Spec (marcarAcceso E esEscritura p s') (fun s'' => Quieta E s s'' ∧ s''.cache = s'.cache)
      EsDesbordamiento := by
  unfold marcarAcceso
  cases E.config.algoritmoReemplazoMmu with
  | mClock => exact ⟨h.setPagina (fun _ => rfl) (fun _ => rfl) (fun _ => rfl), rfl⟩
  | lru =>
    refine (obtenerTimeStamp_spec s').bind fun r hr => ?_
    obtain ⟨ts, s₁⟩ := r
    obtain ⟨-, rfl⟩ := hr
    have hreloj : Quieta E s { s' with contadorTimestamp := s'.contadorTimestamp + 1 } :=
      ⟨h.marcosList, h.mensajes, h.carpinchos, h.nombres, h.liberadas, ⟨h.tlb.bien, h.tlb.fifo⟩⟩
    exact ⟨hreloj.setPagina (fun _ => rfl) (fun _ => rfl) (fun _ => rfl), rfl⟩

variable {offset tamanio : ℕ}

/-- A write inside a page in memory changes the bytes of its frame. -/
theorem escribirEnPagina_residente (h : Residente E s p k) (htlb : TlbEstado E s)
    {buffer : List UInt8} (hle : offset + buffer.length ≤ E.config.tamanioPagina) :
    Spec (escribirEnPagina E p buffer offset s)
      (fun r => r.1 = 0 ∧ Quieta E s r.2 ∧
        r.2.cache = copy s.cache (k * E.config.tamanioPagina + offset) buffer)
      EsDesbordamiento := by
  have hP := E.config.pagina_lt
  have hacceso : accesoEnCache E offset buffer.length = .ok () := if_pos (Or.inr (by omega))
  unfold escribirEnPagina
  refine (traerPagina_residente h htlb).bind fun r hr => ?_
  obtain ⟨marco, s₁⟩ := r
  obtain ⟨hmarco, hquieta, hcache⟩ := hr
  obtain rfl : marco = some (k : ℤ) := hmarco
  dsimp only at hquieta hcache ⊢
  rw [hacceso, ok_bind, escribirEnCache_eq h.lt hle s₁]
  have hquieta₁ : Quieta E s
      { s₁ with cache := copy s₁.cache (k * E.config.tamanioPagina + offset) buffer } :=
    ⟨hquieta.marcosList, hquieta.mensajes, hquieta.carpinchos, hquieta.nombres, hquieta.liberadas,
      ⟨hquieta.tlb.bien, hquieta.tlb.fifo⟩⟩
  refine (marcarAcceso_quieta hquieta₁ true p).bind fun s₂ hs₂ => ?_
  refine ⟨rfl, hs₂.1, ?_⟩
  rw [hs₂.2, hcache]

theorem leerEnPagina_residente (h : Residente E s p k) (htlb : TlbEstado E s)
    (hle : offset + tamanio ≤ E.config.tamanioPagina) :
    Spec (leerEnPagina E p tamanio offset s)
      (fun r => r.1 = some (slice s.cache (k * E.config.tamanioPagina + offset) tamanio) ∧
        Quieta E s r.2 ∧ r.2.cache = s.cache)
      EsDesbordamiento := by
  have hP := E.config.pagina_lt
  have hacceso : accesoEnCache E offset tamanio = .ok () := if_pos (Or.inr (by omega))
  unfold leerEnPagina
  refine (traerPagina_residente h htlb).bind fun r hr => ?_
  obtain ⟨marco, s₁⟩ := r
  obtain ⟨hmarco, hquieta, hcache⟩ := hr
  obtain rfl : marco = some (k : ℤ) := hmarco
  dsimp only at hquieta hcache ⊢
  rw [hacceso, ok_bind, retornarContenido_eq h.lt hle s₁]
  refine (marcarAcceso_quieta hquieta false p).bind fun s₂ hs₂ => ?_
  refine ⟨?_, hs₂.1, hs₂.2.trans hcache⟩
  rw [hcache]

end Accesos

end Carpinchos.Memoria
