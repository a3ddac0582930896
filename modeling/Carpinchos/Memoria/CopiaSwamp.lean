import Carpinchos.Memoria.Coherencia

/-!
# Evictions under M-CLOCK

SWAmP gives up its copy of a page when the page is read, and M-CLOCK skips the
write-back of a victim whose modified bit is off. A page that has never been written
is then dropped without a copy. As long as every victim is modified, every page that
is not in memory has a copy in SWAmP.
-/

namespace Carpinchos.Memoria

open Outcome Bytes Replacement Estado Runs

section Historia

variable {pid pagina pid' pagina' : ℤ} {historia : List Mensaje} {contenido : List UInt8}

/-- SWAmP holds the page: it was sent and has not been read since. -/
def enSwamp (pid pagina : ℤ) (historia : List Mensaje) : Bool :=
  historia.foldl (fun esta m =>
    match m with
    | .escritura pid' pagina' _ => if pid' = pid ∧ pagina' = pagina then true else esta
    | .lectura pid' pagina' => if pid' = pid ∧ pagina' = pagina then false else esta
    | .consulta .. => esta) false

theorem enSwamp_append_escritura :
    enSwamp pid pagina (historia ++ [.escritura pid' pagina' contenido]) =
      if pid' = pid ∧ pagina' = pagina then true else enSwamp pid pagina historia := by
  rw [enSwamp, List.foldl_append]
  rfl

theorem enSwamp_append_lectura :
    enSwamp pid pagina (historia ++ [.lectura pid' pagina']) =
      if pid' = pid ∧ pagina' = pagina then false else enSwamp pid pagina historia := by
  rw [enSwamp, List.foldl_append]
  rfl

end Historia

def Parametros.Sirve (π : Parametros) : Prop :=
  ∀ historia pid pagina, enSwamp pid pagina historia = true →
    (π.leerSwamp historia pid pagina).isSome

namespace Nucleo

variable {π : Parametros} {n n' : Nucleo} {pid : ℤ} {p v k : ℕ}

def Resguardada (n : Nucleo) : Prop :=
  ∀ q, n.existe q → (∀ k, n.marcos k ≠ some q) →
    enSwamp (n.nombre q).1 (n.nombre q).2 n.mensajes = true

/-- A victim for this carpincho would be a modified page. -/
def VictimaModificada (π : Parametros) (pid : ℤ) (n : Nucleo) : Prop :=
  ∀ v m, n.elegir π pid = .ok (v, m) → n.modificada v = true

section Desalojo

theorem Resguardada.of_campos (h : n.Resguardada) (hmarcos : n'.marcos = n.marcos)
    (hnombre : n'.nombre = n.nombre) (hmensajes : n'.mensajes = n.mensajes)
    (hexiste : ∀ q, n'.existe q → n.existe q) : n'.Resguardada := by
  intro q hq hfuera
  rw [hmarcos] at hfuera
  rw [hnombre, hmensajes]
  exact h q (hexiste q hq) hfuera

theorem reemplazar_enSwamp (h : n.Resguardada) (hb : n.Bien π) (hk : n.marcos k = some v)
    (hv : n.modificada v = true) {q : ℕ} (hq : n.existe q)
    (hfuera : ∀ j, j ≠ k → n.marcos j ≠ some q) :
    enSwamp (n.nombre q).1 (n.nombre q).2 (n.reemplazar π v k p).mensajes = true := by
  have hmensajes : (n.reemplazar π v k p).mensajes = n.mensajes ++
      [.escritura (n.nombre v).1 (n.nombre v).2
        (slice n.cache (k * π.tamanioPagina) π.tamanioPagina)] := by
    unfold reemplazar guardar
    rw [if_neg (by simp [hv])]
  rw [hmensajes, enSwamp_append_escritura]
  rcases eq_or_ne q v with rfl | hqv
  · exact if_pos ⟨rfl, rfl⟩
  · have hv' := hb.marcos.existe k v hk
    rw [if_neg fun heq => hqv (hb.tablas.nombre_inj hq hv' (Prod.ext heq.1.symm heq.2.symm))]
    refine h q hq fun j hj => ?_
    rcases eq_or_ne j k with rfl | hjk
    · rw [hk] at hj
      exact hqv (Option.some.inj hj).symm
    · exact hfuera j hjk hj

/-- Frame `k` has passed to the page `p`, and SWAmP has the pages outside the others. -/
structure Cedido (p : ℕ) (n : Nucleo) (k : ℕ) (n' : Nucleo) : Prop where
  paginas : MismasPaginas n n'
  marcos : n'.marcos = Function.update n.marcos k (some p)
  enSwamp : ∀ q, n.existe q → (∀ j, j ≠ k → n.marcos j ≠ some q) →
    enSwamp (n.nombre q).1 (n.nombre q).2 n'.mensajes = true

theorem desalojarPara_cedido (h : n.Resguardada) (hb : n.Bien π)
    (hv : n.VictimaModificada π pid) (p : ℕ) :
    Spec (n.desalojarPara π pid p) (fun r => Cedido p n r.1 r.2) (· = .candidatosVacios) := by
  have hspec := elegir_spec hb pid
  unfold desalojarPara
  cases helegir : n.elegir π pid with
  | error e =>
    rw [helegir] at hspec
    exact hspec
  | ok r =>
    obtain ⟨v, m⟩ := r
    rw [helegir] at hspec
    obtain ⟨hcand, helegida, hbien⟩ := hspec
    obtain ⟨k, -, hk⟩ := mem_residentes.1 (mem_residentes_of_candidato hcand)
    have hk' : m.marcos k = some v := by rw [helegida.marcos, hk]
    have hm : m.Resguardada := h.of_campos helegida.marcos helegida.nombre helegida.mensajes
      fun _ => (existe_of_map_eq helegida.procesos).1
    have hmodificada : m.modificada v = true := by rw [helegida.modificada, hv v m helegir]
    have hdesalojado : Desalojado π pid p n k (m.reemplazar π v k p) v m :=
      ⟨hcand, helegida, hbien, hk, rfl⟩
    simp only [ok_bind, hbien.marcos.marcoDe_eq hk']
    refine ⟨hdesalojado.paginas, hdesalojado.marcos_eq, fun q hq hfuera => ?_⟩
    rw [← show m.nombre = n.nombre from helegida.nombre]
    refine reemplazar_enSwamp hm hbien hk' hmodificada
      ((existe_of_map_eq helegida.procesos).2 hq) fun j hjk => ?_
    rw [helegida.marcos]
    exact hfuera j hjk

end Desalojo

section Acceso

/-- A page fault finds the page in SWAmP, and the page takes the frame of another. -/
theorem recuperar_resguardada (h : n.Resguardada) (hb : n.Bien π) (hsirve : π.Sirve)
    (hp : n.existe p) (hfuera : ∀ j, n.marcos j ≠ some p)
    (hv : n.VictimaModificada π (n.nombre p).1) :
    Spec (n.recuperar π p) (fun r => r.2.Resguardada) (· = .candidatosVacios) := by
  refine (desalojarPara_cedido h hb hv p).bind fun r hr => ?_
  obtain ⟨k, n₁⟩ := r
  have hnombre : n₁.nombre = n.nombre := hr.paginas.nombre
  have hmarcos : n₁.marcos = Function.update n.marcos k (some p) := hr.marcos
  obtain ⟨contenido, hleer⟩ := Option.isSome_iff_exists.1
    (hsirve n₁.mensajes (n.nombre p).1 (n.nombre p).2 (hr.enSwamp p hp fun j _ => hfuera j))
  simp only [hnombre, hleer]
  intro q hq hq'
  have hq₁ : n.existe q := (existe_of_map_eq hr.paginas.procesos).1 hq
  have hqp : q ≠ p := by
    rintro rfl
    exact hq' k (by simp [hmarcos])
  simp only [enSwamp_append_lectura]
  rw [if_neg fun heq => hqp (hb.tablas.nombre_inj hq₁ hp (Prod.ext heq.1.symm heq.2.symm))]
  refine hr.enSwamp q hq₁ fun j hjk hj => hq' j ?_
  simp only [hmarcos, Function.update_of_ne hjk, hj]

def Resguarda (π : Parametros) (n : Nucleo) : Operacion → Prop
  | .createCarpincho _ => True
  | .createPagina pid =>
    (n.proceso pid).isSome → n.puedeTomarMarco π pid = false → n.VictimaModificada π pid
  | .leerEnPagina pid pagina _ _ | .escribirEnPagina pid pagina _ _ =>
    ∀ p, n.buscar pid pagina = .ok p → (∀ k, n.marcos k ≠ some p) → n.VictimaModificada π pid

theorem traer_resguardada (h : n.Resguardada) (hb : n.Bien π) (hsirve : π.Sirve)
    (hp : n.existe p)
    (hv : (∀ k, n.marcos k ≠ some p) → n.VictimaModificada π (n.nombre p).1) :
    Spec (n.traer π p) (fun r => r.2.Resguardada) (· = .candidatosVacios) := by
  unfold traer
  split
  · exact h
  · next hnone =>
    have hfuera : ∀ j, n.marcos j ≠ some p := fun j hj =>
      marcoDe_eq_none.1 hnone j (hb.marcos.lt j p hj) hj
    exact recuperar_resguardada h hb hsirve hp hfuera (hv hfuera)

theorem Resguardada.marcar (h : n.Resguardada) (esEscritura : Bool) (p : ℕ) :
    (n.marcar π esEscritura p).Resguardada := by
  unfold Nucleo.marcar
  split <;> exact h.of_campos rfl rfl rfl fun _ => id

/-- Faults that promise nothing: SWAmP has not refused anything. -/
def SinRechazo (e : Falla) : Prop := ¬ EsRechazo e

theorem leer_resguardada (h : n.Resguardada) (hb : n.Bien π) (hsirve : π.Sirve) (hp : n.existe p)
    (hv : (∀ k, n.marcos k ≠ some p) → n.VictimaModificada π (n.nombre p).1)
    (tamanio offset : ℕ) :
    Spec (n.leer π p tamanio offset) (fun r => r.2.Resguardada) SinRechazo := by
  refine ((traer_resguardada h hb hsirve hp hv).mono (fun _ hr => hr) ?_).bind fun r hr => ?_
  · rintro e rfl he
    cases he
  · cases alcance π.tamanioPagina offset tamanio with
    | enPagina => exact hr.marcar _ _
    | rechazado => exact hr.marcar _ _
    | fuera => exact fun he => by cases he

theorem escribir_resguardada (h : n.Resguardada) (hb : n.Bien π) (hsirve : π.Sirve)
    (hp : n.existe p) (hv : (∀ k, n.marcos k ≠ some p) → n.VictimaModificada π (n.nombre p).1)
    (buffer : List UInt8) (offset : ℕ) :
    Spec (n.escribir π p buffer offset) (fun r => r.2.Resguardada) SinRechazo := by
  refine ((traer_resguardada h hb hsirve hp hv).mono (fun _ hr => hr) ?_).bind fun r hr => ?_
  · rintro e rfl he
    cases he
  · cases alcance π.tamanioPagina offset buffer.length with
    | enPagina =>
      have hcopia : Resguardada { r.2 with
          cache := copy r.2.cache (r.1 * π.tamanioPagina + offset) buffer } := hr
      exact hcopia.marcar _ _
    | rechazado => exact hr.marcar _ _
    | fuera => exact fun he => by cases he

end Acceso

section Creacion

theorem Resguardada.nombrar (h : n.Resguardada) (hb : n.Bien π) (pid numero : ℤ) :
    (n.nombrar pid numero).Resguardada := by
  intro q hq hfuera
  rw [nombrar_nombre fun heq => no_existe_proximoPtr hb.tablas (heq ▸ hq)]
  exact h q hq hfuera

theorem alojarNueva_cedido (h : n.Resguardada) (hb : n.Bien π)
    (hv : n.puedeTomarMarco π pid = false → n.VictimaModificada π pid) (p : ℕ) :
    Spec (n.alojarNueva π pid p) (fun r => ∃ k, Cedido p n k r.2) (· = .candidatosVacios) := by
  unfold alojarNueva
  cases hpuede : n.puedeTomarMarco π pid with
  | true =>
    obtain ⟨k, hk⟩ : ∃ k, n.marcoLibre π = some k := by
      rw [puedeTomarMarco, Bool.and_eq_true] at hpuede
      exact Option.isSome_iff_exists.1 hpuede.1
    simp only [if_true, hk]
    refine ⟨k, ⟨rfl, rfl, rfl⟩, rfl, fun q hq hfuera => h q hq fun j hj => ?_⟩
    have hjk : j ≠ k := by
      rintro rfl
      rw [(marcoLibre_some hk).2] at hj
      cases hj
    exact hfuera j hjk hj
  | false =>
    simp only [Bool.false_eq_true, if_false]
    exact (desalojarPara_cedido h hb (hv hpuede) p).mono (fun r hr => ⟨r.1, hr⟩) fun _ he => he

theorem elegir_nombrar (hb : n.Bien π) {numero pid' : ℤ} {m : Nucleo}
    (h : (n.nombrar pid numero).elegir π pid' = .ok (v, m)) :
    ∃ m', n.elegir π pid' = .ok (v, m') := by
  unfold elegir at h ⊢
  cases hmmu : π.algoritmoReemplazoMmu with
  | lru =>
    simp only [hmmu, elegirLru, candidatos_nombrar hb] at h ⊢
    have horden : (n.nombrar pid numero).orden = n.orden := rfl
    rw [horden] at h
    cases hfilter : n.orden.filter fun p => decide (p ∈ n.candidatos π pid') with
    | nil =>
      rw [hfilter] at h
      cases h
    | cons w ws =>
      rw [hfilter] at h
      obtain ⟨rfl, -⟩ := Prod.mk.inj (Except.ok.inj h)
      exact ⟨n, rfl⟩
  | mClock =>
    simp only [hmmu, elegirMClock, candidatos_nombrar hb] at h ⊢
    have hmanecilla : (n.nombrar pid numero).manecilla π pid' = n.manecilla π pid' := rfl
    rw [hmanecilla] at h
    split at h
    · cases h
    · next hne =>
      rw [if_neg hne]
      cases hlast : n.manecilla π pid' with
      | none =>
        rw [hlast] at h
        cases h
      | some last =>
        simp only [hlast] at h ⊢
        rcases hsearch : search n.modificada ((n.candidatos π pid').drop last) last cuatroPasadas
          n.uso with ⟨_ | ⟨w, j⟩, uso⟩
        · rw [show search (n.nombrar pid numero).modificada ((n.candidatos π pid').drop last) last
            cuatroPasadas (n.nombrar pid numero).uso = (none, uso) from hsearch] at h
          cases h
        · rw [show search (n.nombrar pid numero).modificada ((n.candidatos π pid').drop last) last
            cuatroPasadas (n.nombrar pid numero).uso = (some (w, j), uso) from hsearch] at h
          obtain ⟨rfl, -⟩ := Prod.mk.inj (Except.ok.inj h)
          exact ⟨_, rfl⟩

theorem crear_resguardada (h : n.Resguardada) (hb : n.Bien π)
    (hv : (n.proceso pid).isSome → n.puedeTomarMarco π pid = false →
      n.VictimaModificada π pid) :
    Spec (n.crear π pid) (fun r => r.2.Resguardada) SinRechazo := by
  unfold crear
  split
  · exact fun he => by cases he
  · next c hc =>
    obtain ⟨hcmem, hcpid⟩ := proceso_some hc
    have hbien : (n.nombrar pid (c.paginas.length + 1)).Bien π := nombrar_bien hb
    have hpuede : (n.nombrar pid (c.paginas.length + 1)).puedeTomarMarco π pid =
        n.puedeTomarMarco π pid := puedeTomarMarco_nombrar hb pid (c.paginas.length + 1) pid
    have hmodificada : (n.nombrar pid (c.paginas.length + 1)).puedeTomarMarco π pid = false →
        (n.nombrar pid (c.paginas.length + 1)).VictimaModificada π pid := by
      intro hno v m helegir
      obtain ⟨m', hm'⟩ := elegir_nombrar hb helegir
      exact hv (by rw [hc]; rfl) (hpuede ▸ hno) v m' hm'
    refine ((alojarNueva_cedido (h.nombrar hb pid (c.paginas.length + 1)) hbien hmodificada
      n.proximoPtr).mono (fun _ hr => hr) ?_).bind fun r hr => ?_
    · rintro e rfl he
      cases he
    · obtain ⟨k, hcedido⟩ := hr
      obtain ⟨d, hd, hdpid, -⟩ := exists_proceso_of_map_eq hcedido.paginas.procesos.symm hcmem
      intro q hq hfuera
      rw [registrar_marcos, hcedido.marcos] at hfuera
      rw [registrar_nombre, registrar_mensajes, hcedido.paginas.nombre]
      have hqp : q ≠ n.proximoPtr := by
        rintro rfl
        exact hfuera k (Function.update_self _ _ _)
      have hq₁ := ((existe_registrar hd (hdpid.trans hcpid)).1 hq).resolve_right hqp
      refine hcedido.enSwamp q ((existe_of_map_eq hcedido.paginas.procesos).1 hq₁)
        fun j hjk hj => hfuera j ?_
      rw [Function.update_of_ne hjk, hj]

end Creacion

theorem paso_resguardada (h : n.Resguardada) (hb : n.Bien π) (hsirve : π.Sirve) {op : Operacion}
    (hop : n.Resguarda π op) : Spec (n.paso π op) (fun r => r.2.Resguardada) SinRechazo := by
  have hbuscar : ∀ pid pagina, Spec (n.buscar pid pagina)
      (fun p => n.buscar pid pagina = .ok p ∧ n.existe p ∧ n.nombre p = (pid, pagina))
      SinRechazo := by
    intro pid pagina
    have hspec := buscar_spec (n := n) pid pagina
    cases hp : n.buscar pid pagina with
    | ok p =>
      rw [hp] at hspec
      exact ⟨rfl, hspec⟩
    | error e =>
      rw [hp] at hspec
      exact fun he => by cases hspec.symm.trans he
  cases op with
  | createCarpincho pid =>
    change (n.crearProceso pid).Resguardada
    unfold crearProceso
    split
    · exact h
    · exact h.of_campos rfl rfl rfl fun q hq => by simpa [existe] using hq
  | createPagina pid => exact (crear_resguardada h hb hop).bind fun r hr => hr
  | leerEnPagina pid pagina tamanio offset =>
    refine (hbuscar pid pagina).bind fun p hp => ?_
    have hv : (∀ k, n.marcos k ≠ some p) → n.VictimaModificada π (n.nombre p).1 := by
      rw [hp.2.2]
      exact hop p hp.1
    exact (leer_resguardada h hb hsirve hp.2.1 hv tamanio offset).bind fun r hr => hr
  | escribirEnPagina pid pagina buffer offset =>
    refine (hbuscar pid pagina).bind fun p hp => ?_
    have hv : (∀ k, n.marcos k ≠ some p) → n.VictimaModificada π (n.nombre p).1 := by
      rw [hp.2.2]
      exact hop p hp.1
    exact (escribir_resguardada h hb hsirve hp.2.1 hv buffer offset).bind fun r hr => hr

end Nucleo

section Modulo

variable {E : Entorno} {s : Estado} {n : Nucleo} {pid : ℤ}

/-- Every page without bit of presence is in SWAmP. -/
def CopiaEnSwamp (s : Estado) : Prop :=
  ∀ p, existePagina p s → (s.descriptor p).bitPresencia = false →
    enSwamp (s.descriptor p).carpinchoPid (s.descriptor p).pagina s.mensajes = true

def victimaModificada (E : Entorno) (pid : ℤ) (s : Estado) : Bool :=
  match elegirPaginaASwampear E pid s with
  | .ok (v, _) => (s.descriptor v).bitDeModificacion
  | .error _ => true

/-- The call does not evict a page whose modified bit is off. -/
def resguarda (E : Entorno) (s : Estado) : Operacion → Bool
  | .createCarpincho _ => true
  | .createPagina pid =>
    match getCarpincho pid s with
    | none => true
    | some c =>
      match canCarpinchoAddMarcoToPage E c s with
      | .ok false => victimaModificada E pid s
      | _ => true
  | .leerEnPagina pid pagina _ _ | .escribirEnPagina pid pagina _ _ =>
    match buscarPagina pid pagina s with
    | .ok p => paginaIsInCache p s || victimaModificada E pid s
    | .error _ => true

theorem Representa.nucleo_victima (h : Representa E s n)
    (hmclock : E.config.algoritmoReemplazoMmu = .mClock) (hpid : (n.proceso pid).isSome)
    (hv : victimaModificada E pid s = true) : n.VictimaModificada E.parametros pid := by
  intro v m helegir
  have hagree := elegir_sim h.sim h.bien h.orden hpid
  have hspec := Nucleo.elegir_spec h.bien pid
  rw [helegir] at hagree hspec
  unfold victimaModificada at hv
  cases hmodulo : elegirPaginaASwampear E pid s with
  | error e =>
    rw [hmodulo] at hagree
    exact hagree.elim
  | ok r =>
    obtain ⟨v', s'⟩ := r
    rw [hmodulo] at hagree hv
    obtain ⟨rfl, -⟩ := hagree
    rw [← (h.sim.bits v' (existe_of_candidato h.bien hspec.1) hmclock).2]
    exact hv

theorem Representa.nucleo_resguarda (h : Representa E s n)
    (hmclock : E.config.algoritmoReemplazoMmu = .mClock) {op : Operacion}
    (hop : resguarda E s op = true) : n.Resguarda E.parametros op := by
  have hacceso : ∀ pid pagina,
      (match buscarPagina pid pagina s with
        | .ok p => paginaIsInCache p s || victimaModificada E pid s
        | .error _ => true) = true →
      ∀ p, n.buscar pid pagina = .ok p → (∀ k, n.marcos k ≠ some p) →
        n.VictimaModificada E.parametros pid := by
    intro pid pagina hv p hp hfuera
    rw [buscarPagina_eq h.sim, hp] at hv
    have hspec := Nucleo.buscar_spec (n := n) pid pagina
    rw [hp] at hspec
    obtain ⟨c, hc, -⟩ := h.bien.tablas.existe_proceso hspec.1
    have hpid : (n.proceso pid).isSome := by
      rw [hspec.2] at hc
      rw [hc]
      rfl
    rcases Bool.or_eq_true_iff.1 hv with hcache | hv
    · obtain ⟨k, hk⟩ := (h.sim.paginaIsInCache_iff h.bien hspec.1).1 hcache
      exact absurd hk (hfuera k)
    · exact h.nucleo_victima hmclock hpid hv
  cases op with
  | createCarpincho pid => trivial
  | createPagina pid =>
    intro hpid hpuede
    have hproceso := h.sim.getCarpincho_proceso pid
    obtain ⟨c, hc⟩ : ∃ c, getCarpincho pid s = some c := by
      rw [← hproceso, Option.isSome_map] at hpid
      exact Option.isSome_iff_exists.1 hpid
    rw [hc, Option.map_some] at hproceso
    obtain ⟨hmem, hcpid⟩ := Nucleo.proceso_some hproceso.symm
    have hne : c.pid ≠ 0 := h.bien.tablas.pid_ne _ hmem
    have hcan := h.sim.canCarpinchoAddMarcoToPage_eq h.bien hne
    rw [show c.pid = pid from hcpid, hpuede] at hcan
    rw [resguarda, hc] at hop
    simp only [hcan] at hop
    exact h.nucleo_victima hmclock hpid hop
  | leerEnPagina pid pagina _ _ => exact hacceso pid pagina hop
  | escribirEnPagina pid pagina _ _ => exact hacceso pid pagina hop

theorem Representa.copiaEnSwamp (h : Representa E s n) (hr : n.Resguardada) :
    CopiaEnSwamp s := by
  intro p hp hausente
  have hexiste := h.sim.existe_iff.1 hp
  have hn := h.sim.nombradas p hexiste
  rw [hn.pid, hn.pagina, h.sim.mensajes]
  refine hr p hexiste fun k hk => ?_
  rw [(h.sim.ubicadas p hexiste).presencia.2 ⟨k, hk⟩] at hausente
  cases hausente

/-- Along a run in which every victim is modified, every page that is not in memory is
in SWAmP, so that a later page fault on it can be served. -/
theorem corrida_copiaEnSwamp (hmclock : E.config.algoritmoReemplazoMmu = .mClock)
    (htlb : 0 < E.config.cantidaEntradasTlb) (hsirve : E.parametros.Sirve) (basura : ℕ → Pagina)
    {ops : List Operacion}
    (hops : ∀ op ∈ ops, Nucleo.Admisible op)
    (h : Reaches (paso E) (fun s op => resguarda E s op = true)
      (inicializarMemoria E.config basura) ops s) : CopiaEnSwamp s := by
  have hpaso : ∀ s op o s', (∃ n, Representa E s n ∧ n.Resguardada) →
      Nucleo.Admisible op ∧ resguarda E s op = true → paso E op s = .ok (o, s') →
      ∃ n, Representa E s' n ∧ n.Resguardada := by
    rintro s op o s' ⟨n, hrep, hr⟩ ⟨hadm, hop⟩ hok
    have hagree := paso_sim hrep hadm
    have hspec := Nucleo.paso_resguardada hr hrep.bien hsirve (hrep.nucleo_resguarda hmclock hop)
    rw [hok] at hagree
    cases hn : n.paso E.parametros op with
    | error e =>
      rw [hn] at hagree hspec
      exact absurd hagree hspec
    | ok r =>
      rw [hn] at hagree hspec
      exact ⟨r.2, hagree.2, hspec⟩
  have hinicial : Nucleo.inicial.Resguardada := by
    rintro q ⟨c, hc, -⟩
    simp [Nucleo.inicial] at hc
  obtain ⟨n, hrep, hr⟩ := (h.and_mem hops).invariant hpaso
    ⟨Nucleo.inicial, inicializarMemoria_representa htlb basura, hinicial⟩
  exact hrep.copiaEnSwamp hr

/-- Two written pages: creating a third one evicts a modified page. -/
theorem corrida_copiaEnSwamp_escritas :
    ∃ s, Reaches (paso (entornoFiel (configChica .mClock .lru)))
        (fun s op => resguarda (entornoFiel (configChica .mClock .lru)) s op = true)
        (inicializarMemoria (configChica .mClock .lru) fun _ => paginaNueva 0 0)
        [.createCarpincho 1, .createPagina 1, .escribirEnPagina 1 1 [65] 0, .createPagina 1,
          .escribirEnPagina 1 2 [66] 0, .createPagina 1] s ∧ CopiaEnSwamp s := by
  obtain ⟨s, hs⟩ : ∃ s, guardedRun (paso (entornoFiel (configChica .mClock .lru)))
      (resguarda (entornoFiel (configChica .mClock .lru)))
      [.createCarpincho 1, .createPagina 1, .escribirEnPagina 1 1 [65] 0, .createPagina 1,
        .escribirEnPagina 1 2 [66] 0, .createPagina 1]
      (inicializarMemoria (configChica .mClock .lru) fun _ => paginaNueva 0 0) = some s :=
    Option.isSome_iff_exists.1 (by decide +kernel)
  have hreaches := reaches_of_guardedRun hs
  refine ⟨s, hreaches, corrida_copiaEnSwamp (E := entornoFiel (configChica .mClock .lru)) rfl
    (by decide) (fun _ _ _ _ => rfl) _ (by simp [Nucleo.Admisible]) hreaches⟩

/-- A page that exists, is not in memory, and was never sent to SWAmP. -/
def perdida (p : ℕ) (s : Estado) : Bool :=
  (s.carpinchosList.any fun c => p ∈ c.paginas) && !(s.descriptor p).bitPresencia &&
    !enSwamp (s.descriptor p).carpinchoPid (s.descriptor p).pagina s.mensajes

theorem not_copiaEnSwamp_of_perdida {p : ℕ} (h : perdida p s = true) : ¬ CopiaEnSwamp s := by
  intro hcopia
  simp only [perdida, Bool.and_eq_true, Bool.not_eq_true', List.any_eq_true,
    decide_eq_true_eq] at h
  obtain ⟨⟨⟨c, hc, hp⟩, hausente⟩, hno⟩ := h
  rw [hcopia p ⟨c, hc, hp⟩ hausente] at hno
  cases hno

/-- Three pages that nobody writes to, in two frames: the first one is evicted without
having been sent to SWAmP. -/
theorem copia_perdida :
    ¬ ∀ ops r, (∀ op ∈ ops, Nucleo.Admisible op) →
      run (paso (entornoFiel (configChica .mClock .lru))) ops
        (inicializarMemoria (configChica .mClock .lru) fun _ => paginaNueva 0 0) = .ok r →
      CopiaEnSwamp r.2 := by
  intro hclaim
  have hperdida : (match run (paso (entornoFiel (configChica .mClock .lru)))
      [.createCarpincho 1, .createPagina 1, .createPagina 1, .createPagina 1]
      (inicializarMemoria (configChica .mClock .lru) fun _ => paginaNueva 0 0) with
    | .ok r => perdida 0 r.2
    | .error _ => false) = true := by decide +kernel
  cases hrun : run (paso (entornoFiel (configChica .mClock .lru)))
      [.createCarpincho 1, .createPagina 1, .createPagina 1, .createPagina 1]
      (inicializarMemoria (configChica .mClock .lru) fun _ => paginaNueva 0 0) with
  | error e =>
    rw [hrun] at hperdida
    cases hperdida
  | ok r =>
    rw [hrun] at hperdida
    exact not_copiaEnSwamp_of_perdida hperdida (hclaim _ r (by simp [Nucleo.Admisible]) hrun)

end Modulo

end Carpinchos.Memoria
