import Carpinchos.Swamp.Lectura

/-!
# Fixed assignment

Under FIJA `chequearAsignacion` looks at the first carpincho of the list only. If it is the
one that writes, its slots are compared with the maximum; for any other, the capacity of the
files decides instead, with the carpincho at each position compared with the file at that
position. So the maximum is kept, and a carpincho with room is let in, as long as the rest of
the carpinchos do not depend on that comparison.
-/

namespace Carpinchos.Swamp

open Outcome Runs Wire

variable {cfg : Config} {s s' : Estado} {pid pagina : ℤ} {archivo : String} {i : ℕ}

section Definiciones

def ocupados (pid : ℤ) (s : Estado) : ℕ := s.marcos.countP fun m => m.pid = pid ∧ m.indice ≠ -1

/-- No carpincho has more slots than the maximum, and one that has fewer can write if its
file has a free slot. -/
structure RespetaTope (cfg : Config) (s : Estado) : Prop where
  tope : ∀ pid, ocupados pid s ≤ cfg.marcosMaximos
  acepta : ∀ pid archivo, archivoDe pid s = some archivo →
    ocupados pid s < cfg.marcosMaximos → 0 < marcosLibres archivo s →
      ∀ pagina buffer basura, ∃ s',
        escribirSwap cfg pid pagina buffer basura s = .ok (encodeInt32 0, s')

/-- The capacity rule of `chequearAsignacion` lets a carpincho write. -/
def hayHolgura (cfg : Config) (carpinchos : List Carpincho) : Bool :=
  match contarCarpinchos carpinchos cfg.archivosSwamp with
  | .ok contador => decide (contador < cfg.cantMarcos / cfg.marcosMaximos)
  | .error _ => false

/-- The carpinchos once one of them asks to write. -/
def carpinchosCon (cfg : Config) (pid : ℤ) (s : Estado) : List Carpincho :=
  if (archivoDe pid s).isSome then s.carpinchos
  else s.carpinchos ++ [{ pid := pid, archivo := archivoConMasEspacio cfg s, cantMarcos := 0 }]

def esPrimero (pid : ℤ) (s : Estado) : Bool := s.carpinchos.head?.all fun c => c.pid = pid

/-- The request is a write of the first carpincho, or of one for which the capacity rule and
the maximum agree. The value -1 is not a page, it marks a free slot. -/
def cumpleFija (cfg : Config) (s : Estado) (x : Peticion × Basura) : Bool :=
  match x.1 with
  | .escribir pid pagina _ => decide (pagina ≠ -1) && (esPrimero pid s ||
      hayHolgura cfg (carpinchosCon cfg pid s) && decide (ocupados pid s < cfg.marcosMaximos))
  | .leer _ pagina => decide (pagina ≠ -1)
  | .puedeEscribir _ _ => true
  | .casoAsignacion caso => decide (caso = fija)

end Definiciones

section Chequeo

/-- What `chequearAsignacion` answers under FIJA. -/
def permiteFija (cfg : Config) (pid : ℤ) (carpinchos : List Carpincho) : Bool :=
  match carpinchos with
  | [] => true
  | c :: _ =>
    if c.pid = pid then decide (c.cantMarcos < cfg.marcosMaximos) else hayHolgura cfg carpinchos

theorem chequearAsignacion_fija {asignacion : ℤ} (hcaso : s.casoAsignacion = fija)
    (h : chequearAsignacion cfg pid s = .ok (asignacion, s')) :
    s' = s ∧ (asignacion = 0 ↔ permiteFija cfg pid s.carpinchos = true) := by
  rw [chequearAsignacion, if_pos hcaso] at h
  cases hc : s.carpinchos with
  | nil =>
    rw [hc] at h
    cases h
    exact ⟨rfl, by simp [permiteFija]⟩
  | cons c cs =>
    simp only [hc] at h
    rw [permiteFija]
    split at h
    · next hpid =>
      cases h
      refine ⟨rfl, ?_⟩
      rw [if_pos hpid, decide_eq_true_eq]
      split <;> simp_all
    · next hpid =>
      obtain ⟨contador, hcontador, h⟩ := bind_eq_ok.1 h
      split at h
      · cases h
      · cases h
        refine ⟨rfl, ?_⟩
        rw [if_neg hpid, hayHolgura, hcontador, decide_eq_true_eq, Config.cantMarcos]
        split <;> simp_all

theorem chequearAsignacion_permite (hcaso : s.casoAsignacion = fija)
    (h : permiteFija cfg pid s.carpinchos = true) : chequearAsignacion cfg pid s = .ok (0, s) := by
  rw [chequearAsignacion, if_pos hcaso]
  cases hc : s.carpinchos with
  | nil => rfl
  | cons c cs =>
    rw [hc, permiteFija] at h
    dsimp only
    split at h
    · next hpid => rw [if_pos hpid, if_pos (of_decide_eq_true h)]
    · next hpid =>
      rw [hayHolgura] at h
      split at h
      · next contador hcontador =>
        have hmenor := of_decide_eq_true h
        have hmax : cfg.marcosMaximos ≠ 0 := by
          intro hcero
          rw [hcero, Nat.div_zero] at hmenor
          exact Nat.not_lt_zero _ hmenor
        rw [Config.cantMarcos] at hmenor
        rw [if_neg hpid, hcontador, ok_bind, if_neg hmax, if_pos hmenor]
      · cases h

theorem contarCarpinchos_congr {cs cs' : List Carpincho}
    (h : cs'.map Carpincho.archivo = cs.map Carpincho.archivo) (archivos : List String) :
    contarCarpinchos cs' archivos = contarCarpinchos cs archivos := by
  induction cs generalizing cs' archivos with
  | nil => rw [List.map_eq_nil_iff.1 h]
  | cons c cs ih =>
    cases cs' with
    | nil => cases h
    | cons c' cs' =>
      rw [List.map_cons, List.map_cons, List.cons.injEq] at h
      cases archivos with
      | nil => rfl
      | cons a archivos => rw [contarCarpinchos, contarCarpinchos, ih h.2, h.1]

theorem hayHolgura_actualizar (cambio : ℤ) (s : Estado) :
    hayHolgura cfg (actualizarCarpincho cambio pid s).carpinchos = hayHolgura cfg s.carpinchos := by
  have harchivos : (actualizarCarpincho cambio pid s).carpinchos.map Carpincho.archivo =
      s.carpinchos.map Carpincho.archivo := by
    rw [actualizarCarpincho, List.map_map]
    refine List.map_congr_left fun c _ => ?_
    simp only [Function.comp_apply]
    split <;> rfl
  rw [hayHolgura, contarCarpinchos_congr harchivos, hayHolgura]

end Chequeo

section Pedidos

variable {buffer : List UInt8} {basura : Basura} {r : List UInt8}

theorem recibirPagina_con (hb : Bien cfg s) {a : Option String}
    (h : recibirPagina cfg pid .escribir s = .ok (a, s')) :
    s' = { s with carpinchos := carpinchosCon cfg pid s } := by
  cases ha : archivoDe pid s with
  | some a =>
    rw [recibirPagina_conocido ha] at h
    cases h
    rw [carpinchosCon, ha, Option.isSome_some, if_pos rfl]
  | none =>
    have hfind := ha
    rw [archivoDe_eq_find, Option.map_eq_none_iff] at hfind
    simp only [recibirPagina, hfind] at h
    obtain ⟨libre, hlibre, h⟩ := bind_eq_ok.1 h
    obtain ⟨i, x, rfl, -⟩ := (hayEspacioArchivo_spec hb _).post_of_eq hlibre
    cases h
    rw [carpinchosCon, ha, Option.isSome_none, if_neg Bool.false_ne_true]

structure Escribe (cfg : Config) (pid pagina : ℤ) (s s' : Estado) (i : ℕ) (x : Marco)
    (r : List UInt8) : Prop where
  registrado : Bien cfg { s with carpinchos := carpinchosCon cfg pid s }
  hueco : s.marcos[i]? = some x
  archivo : x.archivo = archivoPedido cfg pid s
  libre : x.indice = -1
  acepta : permiteFija cfg pid (carpinchosCon cfg pid s) = true → r = encodeInt32 0 ∧
    s'.marcos = s.marcos.set i { x with indice := pagina, pid := pid } ∧
    s'.carpinchos = (actualizarCarpincho 1 pid
      { s with carpinchos := carpinchosCon cfg pid s }).carpinchos
  rechaza : permiteFija cfg pid (carpinchosCon cfg pid s) = false → r = encodeInt32 (-1) ∧
    s' = { s with carpinchos := carpinchosCon cfg pid s }

theorem escribirSwap_fija (hb : Bien cfg s) (hcaso : s.casoAsignacion = fija)
    (h : escribirSwap cfg pid pagina buffer basura s = .ok (r, s')) :
    ∃ i x, Escribe cfg pid pagina s s' i x r := by
  obtain ⟨⟨archivo, t⟩, ht, h⟩ := bind_eq_ok.1 h
  obtain ⟨rfl, -, hconserva, -⟩ := recibirPagina_escribir hb ht
  obtain rfl := recibirPagina_con hb ht
  have hbt := hconserva.bien hb
  generalize hpedido : archivoPedido cfg pid s = archivo at h
  obtain ⟨libre, hlibre, h⟩ := bind_eq_ok.1 h
  obtain ⟨i, x, rfl, hx, rfl, hindice⟩ := (hayEspacioArchivo_spec hbt archivo).post_of_eq hlibre
  dsimp only at h
  obtain ⟨⟨asignacion, u⟩, hu, h⟩ := bind_eq_ok.1 h
  obtain ⟨rfl, hpermite⟩ := chequearAsignacion_fija
    (s := { s with carpinchos := carpinchosCon cfg pid s }) hcaso hu
  refine ⟨i, x, hbt, hx, hpedido.symm, hindice, fun hsi => ?_, fun hno => ?_⟩
  · dsimp only at h
    rw [if_pos (hpermite.2 hsi)] at h
    cases h
    exact ⟨rfl, hbt.actualizarMarcos_eq hx pagina pid, rfl⟩
  · dsimp only at h
    have hdistinto : asignacion ≠ 0 := by
      intro hcero
      rw [hpermite.1 hcero] at hno
      cases hno
    rw [if_neg hdistinto] at h
    cases h
    exact ⟨rfl, rfl⟩

theorem escribirSwap_acepta_fija (hb : Bien cfg s) (hcaso : s.casoAsignacion = fija)
    (ha : archivoDe pid s = some archivo) (hlibre : 0 < marcosLibres archivo s)
    (hpermite : permiteFija cfg pid s.carpinchos = true) (pagina : ℤ) (buffer : List UInt8)
    (basura : Basura) :
    ∃ s', escribirSwap cfg pid pagina buffer basura s = .ok (encodeInt32 0, s') := by
  have hhay := hayEspacioArchivo_spec hb archivo
  cases h : hayEspacioArchivo cfg (some archivo) s with
  | error e =>
    rw [h] at hhay
    exact absurd hhay hlibre.ne'
  | ok o =>
    rw [h] at hhay
    obtain ⟨i, x, rfl, -⟩ := hhay
    unfold escribirSwap
    rw [recibirPagina_conocido ha, ok_bind]
    dsimp only
    rw [h, ok_bind]
    dsimp only
    rw [chequearAsignacion_permite hcaso hpermite, ok_bind]
    exact ⟨_, rfl⟩

theorem leerSwap_fija (h : leerSwap cfg pid pagina basura s = .ok (r, s')) :
    s' = s ∨ ∃ i archivo, Sirve cfg pid pagina i archivo s s' ∧
      s'.carpinchos = (actualizarCarpincho (-1) pid s).carpinchos ∧
      s'.casoAsignacion = s.casoAsignacion := by
  rw [leerSwap, recibirPagina_leer, ok_bind] at h
  cases ha : archivoDe pid s with
  | none =>
    simp only [ha] at h
    cases h
    exact Or.inl rfl
  | some archivo =>
    cases hi : conseguirMarco pid pagina s with
    | none =>
      simp only [ha, hi] at h
      cases h
      exact Or.inl rfl
    | some i =>
      simp only [ha, hi] at h
      cases h
      exact Or.inr ⟨i, archivo, ⟨fichas_actualizarCarpincho _ _ _, hi, ha, rfl, rfl, rfl⟩, rfl, rfl⟩

end Pedidos

section Cuenta

theorem ocupados_guardar {x : Marco} (hx : s.marcos[i]? = some x) (hlibre : x.indice = -1)
    (hpagina : pagina ≠ -1)
    (hm : s'.marcos = s.marcos.set i { x with indice := pagina, pid := pid }) (p : ℤ) :
    ocupados p s' = ocupados p s + if p = pid then 1 else 0 := by
  obtain ⟨hlt, heq⟩ := List.getElem?_eq_some_iff.1 hx
  rw [ocupados, hm, List.countP_set hlt, heq, ocupados]
  simp [hlibre, hpagina, eq_comm]

theorem ocupados_liberar {x : Marco} (hx : s.marcos[i]? = some x) (huso : x.indice ≠ -1)
    (hpid : x.pid = pid)
    (hm : s'.marcos = s.marcos.set i { x with indice := -1, pid := pid }) (p : ℤ) :
    ocupados p s' + (if p = pid then 1 else 0) = ocupados p s := by
  obtain ⟨hlt, heq⟩ := List.getElem?_eq_some_iff.1 hx
  rw [ocupados, hm, List.countP_set hlt, heq, ocupados]
  by_cases hp : p = pid
  · subst hp
    have hpos : 0 < s.marcos.countP fun m => m.pid = p ∧ m.indice ≠ -1 :=
      List.countP_pos_iff.2 ⟨x, List.mem_of_getElem? hx, by simp [hpid, huso]⟩
    simp only [hpid, huso, ne_eq, not_true_eq_false, and_false, decide_false, decide_true,
      Bool.false_eq_true, if_false, if_true, not_false_eq_true, and_self] at hpos ⊢
    omega
  · simp [hpid, Ne.symm hp, hp]

theorem Bien.ocupados_desconocido (hb : Bien cfg s) (h : archivoDe pid s = none) :
    ocupados pid s = 0 := by
  rw [ocupados, List.countP_eq_zero]
  intro m hm huso
  rw [decide_eq_true_eq] at huso
  have hconocido := hb.conocidos m hm huso.2
  rw [huso.1, h] at hconocido
  cases hconocido

theorem Bien.lt_of_primero (hb : Bien cfg s) {x : Marco} (hx : s.marcos[i]? = some x)
    (ha : x.archivo = cfg.archivosSwamp.head cfg.archivos_ne) : i < cfg.cantMarcos := by
  have hlugar := hb.lugar hx
  have hlt := hb.marco_lt hx
  have hprimero := lugares_primero hlt
  rw [ha, ← hprimero] at hlugar
  obtain ⟨hi, -⟩ := List.getElem?_eq_some_iff.1 (hlugar.trans hprimero)
  have heq := (List.getElem?_inj hi (lugares_nodup cfg)).1 hlugar
  omega

end Cuenta

section Invariante

/-- The first carpincho is in the first file and its number of pages counts its slots; if
there are more, the capacity rule lets them write. -/
structure EnElTope (cfg : Config) (s : Estado) : Prop extends Bien cfg s where
  caso : s.casoAsignacion = fija
  vacio : s.carpinchos = [] → s.contenido = fun _ _ => 0
  primero : ∀ c cs, s.carpinchos = c :: cs →
    c.archivo = cfg.archivosSwamp.head cfg.archivos_ne ∧ c.cantMarcos = ocupados c.pid s
  tope : ∀ pid, ocupados pid s ≤ cfg.marcosMaximos
  holgura : ∀ c c' cs, s.carpinchos = c :: c' :: cs → hayHolgura cfg s.carpinchos = true

variable {buffer : List UInt8} {basura : Basura} {r : List UInt8}

theorem EnElTope.inicial (cfg : Config) (basura : ℕ → ℤ) : EnElTope cfg (inicial cfg basura) := by
  refine ⟨inicial_bien cfg basura, rfl, fun _ => rfl, ?_, fun pid => ?_, ?_⟩
  · intro c cs h
    cases h
  · rw [(inicial_bien cfg basura).ocupados_desconocido rfl]
    exact Nat.zero_le _
  · intro c c' cs h
    cases h

/-- In files without contents the first one is taken. -/
theorem archivoConMasEspacio_vacio (h : s.contenido = fun _ _ => 0) :
    archivoConMasEspacio cfg s = cfg.archivosSwamp.head cfg.archivos_ne := by
  have hcontador : ∀ archivo, contador cfg archivo s = 0 := by
    intro archivo
    rw [contador, List.countP_eq_zero]
    intro c hc
    have hc := (List.takeWhile_sublist _).mem hc
    rw [bytesDe, h] at hc
    obtain ⟨j, -, rfl⟩ := List.mem_map.1 hc
    simp
  have hfold : ∀ (l : List String) (a : String), l.foldl (fun menor archivo =>
      if contador cfg archivo s < contador cfg menor s then archivo else menor) a = a := by
    intro l
    induction l with
    | nil => exact fun a => rfl
    | cons b l ih =>
      intro a
      rw [List.foldl_cons, hcontador, hcontador, if_neg (lt_irrefl 0), ih]
  exact hfold _ _

theorem EnElTope.registrar (h : EnElTope cfg s)
    (hcumple : esPrimero pid s = true ∨ hayHolgura cfg (carpinchosCon cfg pid s) = true)
    (hb : Bien cfg { s with carpinchos := carpinchosCon cfg pid s }) :
    EnElTope cfg { s with carpinchos := carpinchosCon cfg pid s } := by
  cases ha : archivoDe pid s with
  | some a =>
    have hcon : carpinchosCon cfg pid s = s.carpinchos := by
      rw [carpinchosCon, ha, Option.isSome_some, if_pos rfl]
    rw [hcon]
    exact h
  | none =>
    have hcon : carpinchosCon cfg pid s = s.carpinchos ++
        [{ pid := pid, archivo := archivoConMasEspacio cfg s, cantMarcos := 0 }] := by
      rw [carpinchosCon, ha, Option.isSome_none, if_neg Bool.false_ne_true]
    refine ⟨hb, h.caso, fun hnil => ?_, ?_, h.tope, ?_⟩
    · dsimp only at hnil
      rw [hcon] at hnil
      simp at hnil
    · intro c cs hcs
      dsimp only at hcs
      rw [hcon] at hcs
      cases hl : s.carpinchos with
      | nil =>
        rw [hl] at hcs
        cases hcs
        have hcero := h.ocupados_desconocido ha
        refine ⟨archivoConMasEspacio_vacio (h.vacio hl), ?_⟩
        change (0 : ℤ) = (ocupados pid s : ℤ)
        rw [hcero, Nat.cast_zero]
      | cons d ds =>
        rw [hl, List.cons_append] at hcs
        cases hcs
        exact h.primero c ds hl
    · intro c c' cs hcs
      dsimp only at hcs ⊢
      rcases hcumple with hprimero | hholgura
      · -- Nobody is known, since the first carpincho would be this one.
        rw [hcon] at hcs
        cases hl : s.carpinchos with
        | nil =>
          rw [hl] at hcs
          cases hcs
        | cons d ds =>
          rw [esPrimero, hl, List.head?_cons, Option.all_some, decide_eq_true_eq] at hprimero
          have hmem : d.ficha ∈ fichas s := List.mem_map_of_mem (hl ▸ List.mem_cons_self)
          exact absurd (List.mem_map.2 ⟨d.ficha, hmem, hprimero⟩) (archivoDe_eq_none.1 ha)
      · exact hholgura

theorem EnElTope.cambiar (h : EnElTope cfg s) (hb : Bien cfg s') (hcaso : s'.casoAsignacion = fija)
    {cambio : ℤ} (hcar : s'.carpinchos = (actualizarCarpincho cambio pid s).carpinchos)
    (hno : s.carpinchos ≠ [])
    (hcuenta : ∀ c cs, s.carpinchos = c :: cs → (ocupados c.pid s' : ℤ) =
      ocupados c.pid s + if c.pid = pid then cambio else 0)
    (htope : ∀ p, ocupados p s' ≤ cfg.marcosMaximos) : EnElTope cfg s' := by
  obtain ⟨d, ds, hl⟩ := List.exists_cons_of_ne_nil hno
  have hcar' := hcar
  rw [actualizarCarpincho, hl, List.map_cons] at hcar'
  refine ⟨hb, hcaso, fun hnil => ?_, fun c cs hcs => ?_, htope, fun c c' cs hcs => ?_⟩
  · rw [hnil] at hcar'
    cases hcar'
  · rw [hcs] at hcar'
    obtain ⟨rfl, -⟩ := List.cons.inj hcar'
    obtain ⟨harchivo, hcant⟩ := h.primero d ds hl
    have hd := hcuenta d ds hl
    split
    · next hpid =>
      rw [if_pos hpid] at hd
      exact ⟨harchivo, by rw [hd, ← hcant]⟩
    · next hpid =>
      rw [if_neg hpid, add_zero] at hd
      exact ⟨harchivo, by rw [hd, ← hcant]⟩
  · rw [hcar, hayHolgura_actualizar]
    cases ds with
    | nil =>
      rw [hcs] at hcar'
      cases hcar'
    | cons d' ds => exact h.holgura d d' ds hl

theorem carpinchosCon_cons {c : Carpincho} {cs : List Carpincho} (h : s.carpinchos = c :: cs) :
    ∃ cs', carpinchosCon cfg pid s = c :: cs' := by
  unfold carpinchosCon
  split
  · exact ⟨cs, h⟩
  · rw [h]
    exact ⟨_, rfl⟩

theorem carpinchosCon_primero (cfg : Config) (h : esPrimero pid s = true) :
    ∃ c cs, carpinchosCon cfg pid s = c :: cs ∧ c.pid = pid := by
  cases hl : s.carpinchos with
  | nil =>
    have ha : archivoDe pid s = none := by
      simp [archivoDe, fichas, hl]
    rw [carpinchosCon, ha, Option.isSome_none, if_neg Bool.false_ne_true, hl]
    exact ⟨_, _, rfl, rfl⟩
  | cons c cs =>
    rw [esPrimero, hl, List.head?_cons, Option.all_some, decide_eq_true_eq] at h
    obtain ⟨cs', hcs'⟩ := carpinchosCon_cons hl
    exact ⟨c, cs', hcs', h⟩

/-- For a carpincho that is not the first, the capacity rule decides. -/
theorem permiteFija_con (cfg : Config) (h : esPrimero pid s = false) :
    permiteFija cfg pid (carpinchosCon cfg pid s) = hayHolgura cfg (carpinchosCon cfg pid s) := by
  cases hl : s.carpinchos with
  | nil =>
    rw [esPrimero, hl] at h
    cases h
  | cons c cs =>
    rw [esPrimero, hl, List.head?_cons, Option.all_some, decide_eq_false_iff_not] at h
    obtain ⟨cs', hcs'⟩ := carpinchosCon_cons hl
    rw [hcs', permiteFija, if_neg h]

theorem carpinchosCon_ne_nil : carpinchosCon cfg pid s ≠ [] := by
  cases hl : s.carpinchos with
  | nil =>
    have hprimero : esPrimero pid s = true := by
      rw [esPrimero, hl]
      rfl
    obtain ⟨c, cs, hcs, -⟩ := carpinchosCon_primero cfg hprimero
    rw [hcs]
    exact List.cons_ne_nil _ _
  | cons c cs =>
    obtain ⟨cs', hcs'⟩ := carpinchosCon_cons hl
    rw [hcs']
    exact List.cons_ne_nil _ _

theorem EnElTope.escribirSwap (h : EnElTope cfg s)
    (hcumple : cumpleFija cfg s (.escribir pid pagina buffer, basura) = true)
    (hs : escribirSwap cfg pid pagina buffer basura s = .ok (r, s')) : EnElTope cfg s' := by
  have hcambio := escribirSwap_cambio h.toBien hs
  have hcaso : s'.casoAsignacion = fija := by
    rw [hcambio.caso fun _ heq => by cases heq]
    exact h.caso
  obtain ⟨i, x, hescribe⟩ := escribirSwap_fija h.toBien h.caso hs
  rw [cumpleFija, Bool.and_eq_true, Bool.or_eq_true, Bool.and_eq_true, decide_eq_true_eq,
    decide_eq_true_eq] at hcumple
  obtain ⟨hpagina, hcumple⟩ := hcumple
  have hregistrado := h.registrar (hcumple.imp id And.left) hescribe.registrado
  cases hpermite : permiteFija cfg pid (carpinchosCon cfg pid s) with
  | false =>
    rw [(hescribe.rechaza hpermite).2]
    exact hregistrado
  | true =>
    obtain ⟨-, hmarcos, hcar⟩ := hescribe.acepta hpermite
    have hocupados := ocupados_guardar (s := { s with carpinchos := carpinchosCon cfg pid s })
      hescribe.hueco hescribe.libre hpagina hmarcos
    have hlugar : ocupados pid s < cfg.marcosMaximos := by
      rcases hcumple with hprimero | ⟨-, hmenor⟩
      · obtain ⟨c, cs, hcs, rfl⟩ := carpinchosCon_primero cfg hprimero
        have hcant := (hregistrado.primero c cs hcs).2
        rw [hcs, permiteFija, if_pos rfl, decide_eq_true_eq, hcant] at hpermite
        exact_mod_cast hpermite
      · exact hmenor
    refine hregistrado.cambiar (hcambio.bien h.toBien) hcaso hcar carpinchosCon_ne_nil ?_ ?_
    · intro c cs _
      rw [hocupados]
      push_cast
      rfl
    · intro p
      rw [hocupados]
      have htope := h.tope p
      split
      · next hp =>
        subst hp
        exact hlugar
      · exact htope

theorem EnElTope.leerSwap (h : EnElTope cfg s) (hpagina : pagina ≠ -1)
    (hs : leerSwap cfg pid pagina basura s = .ok (r, s')) : EnElTope cfg s' := by
  rcases leerSwap_fija hs with rfl | ⟨i, archivo, hsirve, hcar, hcaso⟩
  · exact h
  · have hno : s.carpinchos ≠ [] := by
      intro hnil
      have hconocido := hsirve.conocido
      rw [archivoDe, fichas, hnil] at hconocido
      cases hconocido
    by_cases hi : i < cfg.cantMarcos
    · obtain ⟨m, hm, huso, hpid, hset⟩ := hsirve.marcos_primero h.toBien hpagina hi
      have hocupados := ocupados_liberar hm huso hpid hset
      refine h.cambiar (hsirve.bien h.toBien) (hcaso.trans h.caso) hcar hno ?_ ?_
      · intro c cs _
        have hc := hocupados c.pid
        split
        · next hcpid =>
          rw [if_pos hcpid] at hc
          omega
        · next hcpid =>
          rw [if_neg hcpid] at hc
          omega
      · intro p
        have hp := hocupados p
        have htope := h.tope p
        omega
    · have hmarcos := hsirve.marcos_otro h.toBien (not_lt.1 hi)
      have hocupados : ∀ p, ocupados p s' = ocupados p s := by
        intro p
        rw [ocupados, hmarcos, ocupados]
      refine h.cambiar (hsirve.bien h.toBien) (hcaso.trans h.caso) hcar hno ?_ ?_
      · intro c cs hcs
        -- The pages of the first carpincho are in the first file.
        have hajeno : c.pid ≠ pid := by
          rintro rfl
          obtain ⟨m, hm, huso, hk⟩ :=
            exists_of_ranura (conseguirMarco_eq_some hpagina hsirve.encontrado)
          have hconocido := h.conocidos m (List.mem_of_getElem? hm) huso
          have harchivo : archivoDe c.pid s = some c.archivo := by
            simp [archivoDe, fichas, hcs, Carpincho.ficha]
          rw [(Prod.mk.inj hk).1, harchivo, (h.primero c cs hcs).1] at hconocido
          exact hi (h.toBien.lt_of_primero hm (Option.some.inj hconocido).symm)
        rw [hocupados, if_neg hajeno, add_zero]
      · intro p
        rw [hocupados]
        exact h.tope p

/-- Every request that meets the condition keeps the invariant. -/
theorem EnElTope.procesar {x : Peticion × Basura} (h : EnElTope cfg s)
    (hcumple : cumpleFija cfg s x = true) (hs : serverProcesarMensaje cfg x s = .ok (r, s')) :
    EnElTope cfg s' := by
  obtain ⟨peticion, basura⟩ := x
  cases peticion with
  | leer pid pagina => exact h.leerSwap (of_decide_eq_true hcumple) hs
  | escribir pid pagina buffer => exact h.escribirSwap hcumple hs
  | puedeEscribir pid cantPaginas =>
    obtain ⟨⟨archivo, t⟩, ht, hs⟩ := bind_eq_ok.1 hs
    obtain ⟨rfl, rfl⟩ := recibirPagina_puedeEscribir h.toBien ht
    obtain ⟨⟨asignacion, u⟩, hu, hs⟩ := bind_eq_ok.1 hs
    obtain ⟨rfl, -⟩ := chequearAsignacion_fija h.caso hu
    dsimp only at hs
    split at hs
    · cases hs
      exact h
    · cases hs
      exact h
  | casoAsignacion caso =>
    have hfija : caso = fija := of_decide_eq_true hcumple
    rw [serverProcesarMensaje] at hs
    dsimp only at hs
    rw [if_pos (Or.inl hfija), hfija] at hs
    cases hs
    exact ⟨⟨h.lugares, h.conocidos, h.pids⟩, rfl, h.vacio, h.primero, h.tope, h.holgura⟩

theorem EnElTope.holgura_of_conocido (h : EnElTope cfg s) (ha : archivoDe pid s = some archivo)
    (hprimero : esPrimero pid s = false) : hayHolgura cfg s.carpinchos = true := by
  cases hl : s.carpinchos with
  | nil =>
    rw [archivoDe, fichas, hl] at ha
    cases ha
  | cons c cs =>
    rw [esPrimero, hl, List.head?_cons, Option.all_some, decide_eq_false_iff_not] at hprimero
    cases cs with
    | nil => simp [archivoDe, fichas, hl, Carpincho.ficha, hprimero] at ha
    | cons c' cs =>
      rw [← hl]
      exact h.holgura c c' cs hl

theorem carpinchosCon_conocido (cfg : Config) (ha : archivoDe pid s = some archivo) :
    carpinchosCon cfg pid s = s.carpinchos := by
  rw [carpinchosCon, ha, Option.isSome_some, if_pos rfl]

theorem EnElTope.respeta (h : EnElTope cfg s) : RespetaTope cfg s := by
  refine ⟨h.tope, fun pid archivo ha hlugar hlibre => ?_⟩
  refine escribirSwap_acepta_fija h.toBien h.caso ha hlibre ?_
  cases hprimero : esPrimero pid s with
  | true =>
    obtain ⟨c, cs, hcs, rfl⟩ := carpinchosCon_primero cfg hprimero
    rw [carpinchosCon_conocido cfg ha] at hcs
    rw [hcs, permiteFija, if_pos rfl, decide_eq_true_eq, (h.primero c cs hcs).2]
    exact_mod_cast hlugar
  | false =>
    rw [← carpinchosCon_conocido cfg ha, permiteFija_con cfg hprimero,
      carpinchosCon_conocido cfg ha]
    exact h.holgura_of_conocido ha hprimero

/-- A new carpincho that the capacity rule does not let write has room and is left out. -/
theorem EnElTope.rechazado (h : EnElTope cfg s) (hmax : 1 ≤ cfg.marcosMaximos)
    (hprimero : esPrimero pid s = false)
    (hno : hayHolgura cfg (carpinchosCon cfg pid s) = false) {x : Marco}
    (hescribe : Escribe cfg pid pagina s s' i x r) : ¬ RespetaTope cfg s' := by
  have hpermite := permiteFija_con cfg hprimero
  rw [hno] at hpermite
  obtain ⟨-, rfl⟩ := hescribe.rechaza hpermite
  have ha : archivoDe pid s = none := by
    cases ha : archivoDe pid s with
    | none => rfl
    | some a =>
      rw [carpinchosCon_conocido cfg ha, h.holgura_of_conocido ha hprimero] at hno
      cases hno
  have hpedido : archivoPedido cfg pid s = archivoConMasEspacio cfg s := by
    rw [archivoPedido, ha, Option.getD_none]
  have hfichas : fichas { s with carpinchos := carpinchosCon cfg pid s } =
      fichas s ++ [(pid, archivoConMasEspacio cfg s)] := by
    simp [fichas, carpinchosCon, ha, Carpincho.ficha]
  have hconocido : archivoDe pid { s with carpinchos := carpinchosCon cfg pid s } =
      some (archivoConMasEspacio cfg s) := by
    rw [archivoDe_nuevo hfichas, ha, if_pos rfl, Option.none_or]
  have hlibre : 0 < marcosLibres (archivoConMasEspacio cfg s)
      { s with carpinchos := carpinchosCon cfg pid s } := by
    refine List.countP_pos_iff.2 ⟨x, List.mem_of_getElem? hescribe.hueco, decide_eq_true ?_⟩
    exact ⟨hescribe.archivo.trans hpedido, hescribe.libre⟩
  have hcero : ocupados pid { s with carpinchos := carpinchosCon cfg pid s } = 0 :=
    h.ocupados_desconocido ha
  intro hrespeta
  obtain ⟨s'', hs''⟩ := hrespeta.acepta pid _ hconocido (by omega) hlibre pagina []
    ⟨fun _ => 0, fun _ => 0⟩
  obtain ⟨j, y, hotra⟩ := escribirSwap_fija hescribe.registrado h.caso hs''
  have hmismo := carpinchosCon_conocido cfg hconocido
  obtain ⟨hr, -⟩ := hotra.rechaza ((congrArg (permiteFija cfg pid) hmismo).trans hpermite)
  exact absurd hr (by decide)

/-- A write that does not meet the condition and is answered exceeds the maximum, or leaves a
carpincho out. -/
theorem EnElTope.escribirSwap_iff (h : EnElTope cfg s) (hmax : 1 ≤ cfg.marcosMaximos)
    (hpagina : pagina ≠ -1) (hs : Swamp.escribirSwap cfg pid pagina buffer basura s = .ok (r, s')) :
    RespetaTope cfg s' ↔ cumpleFija cfg s (.escribir pid pagina buffer, basura) = true := by
  refine ⟨fun hrespeta => ?_, fun hcumple => (h.escribirSwap hcumple hs).respeta⟩
  by_contra hno
  rw [cumpleFija] at hno
  dsimp only at hno
  rw [decide_eq_true hpagina, Bool.true_and, Bool.not_eq_true, Bool.or_eq_false_iff,
    Bool.and_eq_false_iff] at hno
  obtain ⟨hprimero, hno⟩ := hno
  obtain ⟨i, x, hescribe⟩ := escribirSwap_fija h.toBien h.caso hs
  rcases hno with hholgura | hlleno
  · exact h.rechazado hmax hprimero hholgura hescribe hrespeta
  · cases hholgura : hayHolgura cfg (carpinchosCon cfg pid s) with
    | false => exact h.rechazado hmax hprimero hholgura hescribe hrespeta
    | true =>
      obtain ⟨-, hmarcos, -⟩ := hescribe.acepta ((permiteFija_con cfg hprimero).trans hholgura)
      have hocupados := ocupados_guardar hescribe.hueco hescribe.libre hpagina hmarcos pid
      have htope := hrespeta.tope pid
      rw [decide_eq_false_iff_not] at hlleno
      rw [if_pos rfl] at hocupados
      omega

end Invariante

section Corrida

/-- In every run whose requests meet the condition the maximum is kept and whoever has room
is let in; and the first write that does not meet it, if it is answered, breaks it. -/
theorem corrida_respetaTope (cfg : Config) (hmax : 1 ≤ cfg.marcosMaximos) (basura : ℕ → ℤ)
    {xs : List (Peticion × Basura)} {s : Estado}
    (h : Reaches (serverProcesarMensaje cfg) (fun s x => cumpleFija cfg s x = true)
      (inicial cfg basura) xs s) :
    RespetaTope cfg s ∧ ∀ pid pagina buffer basura r s', pagina ≠ -1 →
      escribirSwap cfg pid pagina buffer basura s = .ok (r, s') →
        (RespetaTope cfg s' ↔
          cumpleFija cfg s (.escribir pid pagina buffer, basura) = true) := by
  have hpaso : ∀ s x r s', EnElTope cfg s → cumpleFija cfg s x = true →
      serverProcesarMensaje cfg x s = .ok (r, s') → EnElTope cfg s' :=
    fun s x r s' hs hcumple hok => hs.procesar hcumple hok
  have hinv := h.invariant hpaso (EnElTope.inicial cfg basura)
  exact ⟨hinv.respeta, fun pid pagina buffer basura r s' hpagina hs =>
    hinv.escribirSwap_iff hmax hpagina hs⟩

/-- Two files of four slots, with a maximum for each carpincho. -/
def dosDeCuatro (maximo : ℕ) : Config :=
  { dosArchivos with tamanioSwamp := 256, marcosMaximos := maximo }

/-- Two carpinchos store and read a page each. -/
theorem corrida_respetaTope_dos :
    ∃ s, guardedRun (serverProcesarMensaje (dosDeCuatro 1)) (cumpleFija (dosDeCuatro 1))
      [(.escribir 1 1 [65, 0], basuraCero), (.escribir 2 1 [66, 0], basuraCero),
        (.leer 1 1, basuraCero), (.escribir 1 2 [67, 0], basuraCero)]
      (inicial (dosDeCuatro 1) fun _ => 0) = some s ∧
      (ocupados 1 s = 1 ∧ ocupados 2 s = 1) ∧ RespetaTope (dosDeCuatro 1) s := by
  have hcorrida : (guardedRun (serverProcesarMensaje (dosDeCuatro 1)) (cumpleFija (dosDeCuatro 1))
      [(.escribir 1 1 [65, 0], basuraCero), (.escribir 2 1 [66, 0], basuraCero),
        (.leer 1 1, basuraCero), (.escribir 1 2 [67, 0], basuraCero)]
      (inicial (dosDeCuatro 1) fun _ => 0)).any
      (fun s => ocupados 1 s = 1 ∧ ocupados 2 s = 1) = true := by
    decide +kernel
  obtain ⟨s, hs, hcuenta⟩ := (Option.any_eq_true _ _).1 hcorrida
  have hrespeta :=
    (corrida_respetaTope (dosDeCuatro 1) le_rfl (fun _ => 0) (reaches_of_guardedRun hs)).1
  exact ⟨s, hs, of_decide_eq_true hcuenta, hrespeta⟩

def dejaAfuera (cfg : Config) (pid : ℤ) (s : Estado) : Bool :=
  match archivoDe pid s with
  | none => false
  | some archivo => decide (ocupados pid s < cfg.marcosMaximos) &&
      decide (0 < marcosLibres archivo s) &&
        returns (escribirSwap cfg pid 1 [] basuraCero s) fun r => r.1 ≠ encodeInt32 0

theorem not_respetaTope_of_dejaAfuera (h : dejaAfuera cfg pid s = true) : ¬ RespetaTope cfg s := by
  intro hrespeta
  rw [dejaAfuera] at h
  split at h
  · cases h
  · next archivo ha =>
    simp only [Bool.and_eq_true, decide_eq_true_eq] at h
    obtain ⟨s', hs'⟩ := hrespeta.acepta pid archivo ha h.1.1 h.1.2 1 [] basuraCero
    rw [hs'] at h
    simp [returns] at h

/-- The second of two carpinchos exceeds a maximum of one; with a maximum of four it is not
let in. -/
theorem tope_solo_del_primero :
    (∃ s, Reaches (serverProcesarMensaje (dosDeCuatro 1)) (fun _ _ => True)
      (inicial (dosDeCuatro 1) fun _ => 0)
      [(.escribir 1 1 [65, 0], basuraCero), (.escribir 2 1 [66, 0], basuraCero),
        (.escribir 2 2 [67, 0], basuraCero)] s ∧ ¬ RespetaTope (dosDeCuatro 1) s) ∧
    ∃ s, Reaches (serverProcesarMensaje (dosDeCuatro 4)) (fun _ _ => True)
      (inicial (dosDeCuatro 4) fun _ => 0)
      [(.escribir 1 1 [65, 0], basuraCero), (.escribir 2 1 [66, 0], basuraCero)] s ∧
      ¬ RespetaTope (dosDeCuatro 4) s := by
  constructor
  · have hcorrida : (guardedRun (serverProcesarMensaje (dosDeCuatro 1)) (fun _ _ => true)
        [(.escribir 1 1 [65, 0], basuraCero), (.escribir 2 1 [66, 0], basuraCero),
          (.escribir 2 2 [67, 0], basuraCero)] (inicial (dosDeCuatro 1) fun _ => 0)).any
        (fun s => ocupados 2 s = 2) = true := by
      decide +kernel
    obtain ⟨s, hs, hdos⟩ := (Option.any_eq_true _ _).1 hcorrida
    refine ⟨s, (reaches_of_guardedRun hs).mono fun _ _ _ => trivial, fun hrespeta => ?_⟩
    have hle : ocupados 2 s ≤ 1 := hrespeta.tope 2
    rw [of_decide_eq_true hdos] at hle
    omega
  · have hcorrida : (guardedRun (serverProcesarMensaje (dosDeCuatro 4)) (fun _ _ => true)
        [(.escribir 1 1 [65, 0], basuraCero), (.escribir 2 1 [66, 0], basuraCero)]
        (inicial (dosDeCuatro 4) fun _ => 0)).any (dejaAfuera (dosDeCuatro 4) 2) = true := by
      decide +kernel
    obtain ⟨s, hs, hafuera⟩ := (Option.any_eq_true _ _).1 hcorrida
    exact ⟨s, (reaches_of_guardedRun hs).mono fun _ _ _ => trivial,
      not_respetaTope_of_dejaAfuera hafuera⟩

end Corrida

end Carpinchos.Swamp
