/-!
# Composed characters

* `combiningClasses` : the characters of each combining class other than the class of letters;
* `composites` : characters that are composed of others.

A set of characters is written as numbers in base 36, digits then lower-case letters: for each range
the distance from the end of the previous one and the number of characters after its first. Lines are
read one after the other.
-/

namespace Schemata.Unicode

/-- The combining classes and their characters. -/
def combiningClasses : List (Nat × List String) := [
  (1, ["ms 4 523 0 d 6 rt 1 4 2 a 1 3 1 1a31 0 j3q 4 g4p 0 43s 2"]),
  (6, ["20og 1"]),
  (7,
    ["1to 0 3j 0 3j 0 3j 0 3j 0 73 0 3j 0 oq 0 264 0 4x 0 28 0 ry3 0 kcm 0 54 0 2e 0 2z 0 4y 0 29",
     "1 7d 0 3g 0 70 0 6u 0 aq 0 7c 0 se 0 14av 0"]),
  (8, ["9ll 1"]),
  (9,
    ["1u5 0 3j 0 3j 0 3j 0 3j 0 3j 0 3j 0 3j 0 31 1 g 0 3g 0 33 0 3j 0 5l 0 50 1 1cp 1 u 0 4d 0",
     "i5 0 6b 0 2t 1 1y 1 3gr 0 o7a 0 11 0 47 0 3y 0 30 0 8l 0 6u 0 imp 0 16u 0 15 0 e 0 1l 0 3d",
     "1 3v 0 38 0 50 0 2q 0 3k 2 35 0 3j 0 70 0 3j 0 3a 0 38 0 7h 0 77 1 4h 0 2b 0 i 0 29 0 bp 0",
     "78 1 29 0 bt 1 d0s 0"]),
  (10, ["14g 0"]),
  (11, ["14h 0"]),
  (12, ["14i 0"]),
  (13, ["14j 0"]),
  (14, ["14k 0"]),
  (15, ["14l 0"]),
  (16, ["14m 0"]),
  (17, ["14n 0"]),
  (18, ["14o 0 e 0"]),
  (19, ["14p 1"]),
  (20, ["14r 0"]),
  (21, ["14s 0"]),
  (22, ["14t 0"]),
  (23, ["14v 0"]),
  (24, ["14x 0"]),
  (25, ["14y 0"]),
  (26, ["1dlq 0"]),
  (27, ["18r 0 is 0"]),
  (28, ["18s 0 is 0"]),
  (29, ["18t 0 is 0"]),
  (30, ["17c 0 1h 0"]),
  (31, ["17d 0 1h 0"]),
  (32, ["17e 0 1h 0"]),
  (33, ["18x 0"]),
  (34, ["18y 0"]),
  (35, ["19s 0"]),
  (36, ["1e9 0"]),
  (84, ["2fp 0"]),
  (91, ["2fq 0"]),
  (103, ["2t4 1"]),
  (107, ["2tk 3"]),
  (118, ["2wo 1"]),
  (122, ["2x4 3"]),
  (129, ["31t 0"]),
  (130, ["31u 0 7 3 2 0"]),
  (132, ["31w 0"]),
  (202, ["m9 1 4 1 59j 0"]),
  (214, ["5vy 0"]),
  (216, ["m3 0 2e5 0 2gx7 1 7 4"]),
  (218, ["5x6 0 3lb 0"]),
  (220,
    ["ly 3 2 4 2 3 2 a 5 3 a 2 3 1 4 3 2 1 fq 0 4 0 4 0 6 5 2 0 q 0 3z 1 5 0 2 0 3n 0 6 0 2 0 1v",
     "0 2 0 2 2 1 1 1 0 3 0 1 0 1 0 1 0 4p 0 a 0 2j 2 1p 2 1f 4 f 0 2 0 2 0 3 2 6 0 2 1 2f 0 151",
     "1 r 0 1 0 3y 0 5i 0 1pp 0 64 0 2u 0 1h 5 2 0 1 1 2 1 5 0 i 0 8 0 3p 0 a0 4 2 3 d 0 5w 0 7 0",
     "4 0 15 0 3 0 1 0 ko 0 3 3 qwr 2 au 0 ghe 6 r3 0 6a 0 1f0 0 18 0 4r 0 sz 1 1 2 1y 1 3 0 1 3",
     "1e 0 1 0 12b9 7 7 1 3tu 0 74 0 kg 6"]),
  (222, ["13u 0 i 0 3uz 0 4j7 0"]),
  (224, ["9im 1"]),
  (226, ["2jxp 0"]),
  (228, ["14e 0 3qy 0 11p 1 3le 0"]),
  (230,
    ["lc k 14 2 2 0 3 0 3 2 3 2 4 0 3 0 7 c 7n 4 7e 3 1 2 2 5 6 1 1 1 2 0 k 0 23 7 1n 1 2 4 1 1",
     "3b 6 2 3 1 0 2 1 2 1 1v 0 1 1 1 1 3 0 2 0 1 2 1 0 1 0 1 0 1 1 4g 6 1 0 y 3 1 8 1 2 1 4 2x 1",
     "3 3 16 4 5 d 2 1 1 1 1 2 6 2 1 1 2 4 29 0 1 1 4p 0 137 1 2 1 r9 2 vx 0 9o 0 64 0 2l 7 1f 4",
     "6 1 4 1 2 4 1 h 3 5 1 3 3k 0 1 6 9o 2 7 1 4 0 j 0 3 1 5i 1 1 6 1 1 4 10 5 0 2 0 k1 1 2 3 3",
     "1 4 0 5 0 1 0 6 0 2da 2 6m v nsf 0 4 9 w 1 28 1 dq h ce 0 1 1 3 1 5 1 1 0 ggu 6 7 1 11i 4",
     "1as 0 14 0 4s 0 fy 3 1t 4 8t 1 4b 2 1 0 1h 0 1 0 aj 2 gz 6 3 4 6h 0 h5d 6 k7i 4 w 3 44 2",
     "2pn 6 1 g 2 6 1 1 1 4 2s 0 4g 6 af 0 1p 3 e7 0 72 0 6s 0 2 0 7 1 5 0 ge 5"]),
  (232, ["lx 0 4 0 1p 0 599 0 3lh 0 2e9r 1"]),
  (233, ["nw 0 2 0 2 0 595 0"]),
  (234, ["nx 1 1 1 4nd 0 kh 0"]),
  (240, ["n9 0"])]

/-- The characters that texts are composed to, the syllables of Hangul apart: for each the distance from
the previous one and the characters that it is composed of, all the way. -/
def composites : List String :=
  ["5c.1t.lc 0.1t.ld 0.1t.le 0.1t.lf 0.1t.lk 0.1t.lm 1.1v.mf 0.1x.lc 0.1x.ld 0.1x.le 0.1x.lk",
   "0.21.lc 0.21.ld 0.21.le 0.21.lk 1.26.lf 0.27.lc 0.27.ld 0.27.le 0.27.lf 0.27.lk 2.2d.lc",
   "0.2d.ld 0.2d.le 0.2d.lk 0.2h.ld 2.2p.lc 0.2p.ld 0.2p.le 0.2p.lf 0.2p.lk 0.2p.lm 1.2r.mf",
   "0.2t.lc 0.2t.ld 0.2t.le 0.2t.lk 0.2x.lc 0.2x.ld 0.2x.le 0.2x.lk 1.32.lf 0.33.lc 0.33.ld",
   "0.33.le 0.33.lf 0.33.lk 2.39.lc 0.39.ld 0.39.le 0.39.lk 0.3d.ld 1.3d.lk 0.1t.lg 0.2p.lg",
   "0.1t.li 0.2p.li 0.1t.mg 0.2p.mg 0.1v.ld 0.2r.ld 0.1v.le 0.2r.le 0.1v.lj 0.2r.lj 0.1v.lo",
   "0.2r.lo 0.1w.lo 0.2s.lo 2.1x.lg 0.2t.lg 0.1x.li 0.2t.li 0.1x.lj 0.2t.lj 0.1x.mg 0.2t.mg",
   "0.1x.lo 0.2t.lo 0.1z.le 0.2v.le 0.1z.li 0.2v.li 0.1z.lj 0.2v.lj 0.1z.mf 0.2v.mf 0.20.le",
   "0.2w.le 2.21.lf 0.2x.lf 0.21.lg 0.2x.lg 0.21.li 0.2x.li 0.21.mg 0.2x.mg 0.21.lj 3.22.le",
   "0.2y.le 0.23.mf 0.2z.mf 1.24.ld 0.30.ld 0.24.mf 0.30.mf 0.24.lo 0.30.lo 4.26.ld 0.32.ld",
   "0.26.mf 0.32.mf 0.26.lo 0.32.lo 3.27.lg 0.33.lg 0.27.li 0.33.li 0.27.ln 0.33.ln 2.2a.ld",
   "0.36.ld 0.2a.mf 0.36.mf 0.2a.lo 0.36.lo 0.2b.ld 0.37.ld 0.2b.le 0.37.le 0.2b.mf 0.37.mf",
   "0.2b.lo 0.37.lo 0.2c.mf 0.38.mf 0.2c.lo 0.38.lo 2.2d.lf 0.39.lf 0.2d.lg 0.39.lg 0.2d.li",
   "0.39.li 0.2d.lm 0.39.lm 0.2d.ln 0.39.ln 0.2d.mg 0.39.mg 0.2f.le 0.3b.le 0.2h.le 0.3d.le",
   "0.2h.lk 0.2i.ld 0.3e.ld 0.2i.lj 0.3e.lj 0.2i.lo 0.3e.lo x.27.m3 0.33.m3 d.2d.m3 0.39.m3",
   "s.1t.lo 0.2p.lo 0.21.lo 0.2x.lo 0.27.lo 0.33.lo 0.2d.lo 0.39.lo 0.2d.lk.lg 0.39.lk.lg",
   "0.2d.lk.ld 0.39.lk.ld 0.2d.lk.lo 0.39.lk.lo 0.2d.lk.lc 0.39.lk.lc 1.1t.lk.lg 0.2p.lk.lg",
   "0.1t.lj.lg 0.2p.lj.lg 0.5i.lg 0.6e.lg 2.1z.lo 0.2v.lo 0.23.lo 0.2z.lo 0.27.mg 0.33.mg",
   "0.27.mg.lg 0.33.mg.lg 0.c7.lo 0.ia.lo 0.2y.lo 3.1z.ld 0.2v.ld 2.26.lc 0.32.lc 0.1t.lm.ld",
   "0.2p.lm.ld 0.5i.ld 0.6e.ld 0.60.ld 0.6w.ld 0.1t.lr 0.2p.lr 0.1t.lt 0.2p.lt 0.1x.lr 0.2t.lr",
   "0.1x.lt 0.2t.lt 0.21.lr 0.2x.lr 0.21.lt 0.2x.lt 0.27.lr 0.33.lr 0.27.lt 0.33.lt 0.2a.lr",
   "0.36.lr 0.2a.lt 0.36.lt 0.2d.lr 0.39.lr 0.2d.lt 0.39.lt 0.2b.me 0.37.me 0.2c.me 0.38.me",
   "2.20.lo 0.2w.lo 6.1t.lj 0.2p.lj 0.1x.mf 0.2t.mf 0.27.lk.lg 0.33.lk.lg 0.27.lf.lg 0.33.lf.lg",
   "0.27.lj 0.33.lj 0.27.lj.lg 0.33.lj.lg 0.2h.lg 0.3d.lg 9d.4o.ld 0.pd.ld 1.ph.ld 0.pj.ld",
   "0.pl.ld 1.pr.ld 1.px.ld 0.q1.ld 0.qh.lk.ld p.pl.lk 0.px.lk 0.q9.ld 0.qd.ld 0.qf.ld 0.qh.ld",
   "0.qt.lk.ld p.qh.lk 0.qt.lk 0.qn.ld 0.qt.ld 0.qx.ld 4.r6.ld 0.r6.lk 17.t1.lc 0.t1.lk 1.sz.ld",
   "3.sm.lk 4.t6.ld 0.t4.lc 0.tf.li a.t4.li v.u0.li m.tx.lc 0.tx.lk 1.tv.ld 3.uu.lk 4.u2.ld",
   "0.u0.lc 0.ub.li n.vo.lr 0.vp.lr 21.t2.li 0.ty.li d.sw.li 0.ts.li 0.sw.lk 0.ts.lk 2.t1.li",
   "0.tx.li 2.yg.lk 0.yh.lk 0.t2.lk 0.ty.lk 0.t3.lk 0.tz.lk 2.t4.lg 0.u0.lg 0.t4.lk 0.u0.lk",
   "0.ta.lk 0.u6.lk 2.yw.lk 0.yx.lk 0.tp.lk 0.ul.lk 0.tf.lg 0.ub.lg 0.tf.lk 0.ub.lk 0.tf.ln",
   "0.ub.ln 0.tj.lk 0.uf.lk 2.tn.lk 0.uj.lk 88.17r.18z 0.17r.190 0.18o.190 0.17r.191 0.18q.190",
   "49.1cl.190 1.1c1.190 g.1ci.190 gl.1t4.1to 7.1tc.1to 2.1tf.1to 46.1xj.1xa 0.1xj.1xz aj.287.28m",
   "2.287.27y 0.287.28n 1z.2aa.2c7 1h.2bq.2bi 0.2br.2bi 0.2bq.2c7 3f.2fa.2fq 3b.2in.2j9 6.2iu.2j9",
   "0.2iu.2ja 1.2iu.2iq 0.2iu.2iq.2j9 3i.2me.2m6 0.2mf.2m6 0.2me.2mv 3x.2qh.2q2 1.2qh.2q7",
   "0.2qh.2q7.2q2 0.2qh.2qn g7.36t.372 25b.5c5.5dh 1.5c7.5dh 1.5c9.5dh 1.5cb.5dh 1.5cd.5dh",
   "3.5ch.5dh 14.5dm.5dh 1.5do.5dh 2.5dq.5dh 0.5dr.5dh 1.5du.5dh jg.1t.md 0.2p.md 0.1u.lj 0.2q.lj",
   "0.1u.mb 0.2q.mb 0.1u.mp 0.2q.mp 0.1v.mf.ld 0.2r.mf.ld 0.1w.lj 0.2s.lj 0.1w.mb 0.2s.mb 0.1w.mp",
   "0.2s.mp 0.1w.mf 0.2s.mf 0.1w.ml 0.2s.ml 0.1x.lg.lc 0.2t.lg.lc 0.1x.lg.ld 0.2t.lg.ld 0.1x.ml",
   "0.2t.ml 0.1x.mo 0.2t.mo 0.1x.mf.li 0.2t.mf.li 0.1y.lj 0.2u.lj 0.1z.lg 0.2v.lg 0.20.lj 0.2w.lj",
   "0.20.mb 0.2w.mb 0.20.lk 0.2w.lk 0.20.mf 0.2w.mf 0.20.mm 0.2w.mm 0.21.mo 0.2x.mo 0.21.lk.ld",
   "0.2x.lk.ld 0.23.ld 0.2z.ld 0.23.mb 0.2z.mb 0.23.mp 0.2z.mp 0.24.mb 0.30.mb 0.24.mb.lg",
   "0.30.mb.lg 0.24.mp 0.30.mp 0.24.ml 0.30.ml 0.25.ld 0.31.ld 0.25.lj 0.31.lj 0.25.mb 0.31.mb",
   "0.26.lj 0.32.lj 0.26.mb 0.32.mb 0.26.mp 0.32.mp 0.26.ml 0.32.ml 0.27.lf.ld 0.33.lf.ld",
   "0.27.lf.lk 0.33.lf.lk 0.27.lg.lc 0.33.lg.lc 0.27.lg.ld 0.33.lg.ld 0.28.ld 0.34.ld 0.28.lj",
   "0.34.lj 0.2a.lj 0.36.lj 0.2a.mb 0.36.mb 0.2a.mb.lg 0.36.mb.lg 0.2a.mp 0.36.mp 0.2b.lj 0.37.lj",
   "0.2b.mb 0.37.mb 0.2b.ld.lj 0.37.ld.lj 0.2b.lo.lj 0.37.lo.lj 0.2b.mb.lj 0.37.mb.lj 0.2c.lj",
   "0.38.lj 0.2c.mb 0.38.mb 0.2c.mp 0.38.mp 0.2c.ml 0.38.ml 0.2d.mc 0.39.mc 0.2d.mo 0.39.mo",
   "0.2d.ml 0.39.ml 0.2d.lf.ld 0.39.lf.ld 0.2d.lg.lk 0.39.lg.lk 0.2e.lf 0.3a.lf 0.2e.mb 0.3a.mb",
   "0.2f.lc 0.3b.lc 0.2f.ld 0.3b.ld 0.2f.lk 0.3b.lk 0.2f.lj 0.3b.lj 0.2f.mb 0.3b.mb 0.2g.lj",
   "0.3c.lj 0.2g.lk 0.3c.lk 0.2h.lj 0.3d.lj 0.2i.le 0.3e.le 0.2i.mb 0.3e.mb 0.2i.mp 0.3e.mp",
   "0.2w.mp 0.38.lk 0.3b.lm 0.3d.lm 1.an.lj 4.1t.mb 0.2p.mb 0.1t.ll 0.2p.ll 0.1t.le.ld 0.2p.le.ld",
   "0.1t.le.lc 0.2p.le.lc 0.1t.le.ll 0.2p.le.ll 0.1t.le.lf 0.2p.le.lf 0.1t.mb.le 0.2p.mb.le",
   "0.1t.li.ld 0.2p.li.ld 0.1t.li.lc 0.2p.li.lc 0.1t.li.ll 0.2p.li.ll 0.1t.li.lf 0.2p.li.lf",
   "0.1t.mb.li 0.2p.mb.li 0.1x.mb 0.2t.mb 0.1x.ll 0.2t.ll 0.1x.lf 0.2t.lf 0.1x.le.ld 0.2t.le.ld",
   "0.1x.le.lc 0.2t.le.lc 0.1x.le.ll 0.2t.le.ll 0.1x.le.lf 0.2t.le.lf 0.1x.mb.le 0.2t.mb.le",
   "0.21.ll 0.2x.ll 0.21.mb 0.2x.mb 0.27.mb 0.33.mb 0.27.ll 0.33.ll 0.27.le.ld 0.33.le.ld",
   "0.27.le.lc 0.33.le.lc 0.27.le.ll 0.33.le.ll 0.27.le.lf 0.33.le.lf 0.27.mb.le 0.33.mb.le",
   "0.27.m3.ld 0.33.m3.ld 0.27.m3.lc 0.33.m3.lc 0.27.m3.ll 0.33.m3.ll 0.27.m3.lf 0.33.m3.lf",
   "0.27.m3.mb 0.33.m3.mb 0.2d.mb 0.39.mb 0.2d.ll 0.39.ll 0.2d.m3.ld 0.39.m3.ld 0.2d.m3.lc",
   "0.39.m3.lc 0.2d.m3.ll 0.39.m3.ll 0.2d.m3.lf 0.39.m3.lf 0.2d.m3.mb 0.39.m3.mb 0.2h.lc 0.3d.lc",
   "0.2h.mb 0.3d.mb 0.2h.ll 0.3d.ll 0.2h.lf 0.3d.lf 6.q9.lv 0.q9.lw 0.q9.lv.lc 0.q9.lw.lc",
   "0.q9.lv.ld 0.q9.lw.ld 0.q9.lv.n6 0.q9.lw.n6 0.pd.lv 0.pd.lw 0.pd.lv.lc 0.pd.lw.lc 0.pd.lv.ld",
   "0.pd.lw.ld 0.pd.lv.n6 0.pd.lw.n6 0.qd.lv 0.qd.lw 0.qd.lv.lc 0.qd.lw.lc 0.qd.lv.ld 0.qd.lw.ld",
   "2.ph.lv 0.ph.lw 0.ph.lv.lc 0.ph.lw.lc 0.ph.lv.ld 0.ph.lw.ld 2.qf.lv 0.qf.lw 0.qf.lv.lc",
   "0.qf.lw.lc 0.qf.lv.ld 0.qf.lw.ld 0.qf.lv.n6 0.qf.lw.n6 0.pj.lv 0.pj.lw 0.pj.lv.lc 0.pj.lw.lc",
   "0.pj.lv.ld 0.pj.lw.ld 0.pj.lv.n6 0.pj.lw.n6 0.qh.lv 0.qh.lw 0.qh.lv.lc 0.qh.lw.lc 0.qh.lv.ld",
   "0.qh.lw.ld 0.qh.lv.n6 0.qh.lw.n6 0.pl.lv 0.pl.lw 0.pl.lv.lc 0.pl.lw.lc 0.pl.lv.ld 0.pl.lw.ld",
   "0.pl.lv.n6 0.pl.lw.n6 0.qn.lv 0.qn.lw 0.qn.lv.lc 0.qn.lw.lc 0.qn.lv.ld 0.qn.lw.ld 2.pr.lv",
   "0.pr.lw 0.pr.lv.lc 0.pr.lw.lc 0.pr.lv.ld 0.pr.lw.ld 2.qt.lv 0.qt.lw 0.qt.lv.lc 0.qt.lw.lc",
   "0.qt.lv.ld 0.qt.lw.ld 0.qt.lv.n6 0.qt.lw.n6 1.px.lw 1.px.lw.lc 1.px.lw.ld 1.px.lw.n6 0.qx.lv",
   "0.qx.lw 0.qx.lv.lc 0.qx.lw.lc 0.qx.lv.ld 0.qx.lw.ld 0.qx.lv.n6 0.qx.lw.n6 0.q1.lv 0.q1.lw",
   "0.q1.lv.lc 0.q1.lw.lc 0.q1.lv.ld 0.q1.lw.ld 0.q1.lv.n6 0.q1.lw.n6 0.q9.lc 1.qd.lc 1.qf.lc",
   "1.qh.lc 1.qn.lc 1.qt.lc 1.qx.lc 3.q9.lv.n9 0.q9.lw.n9 0.q9.lv.lc.n9 0.q9.lw.lc.n9",
   "0.q9.lv.ld.n9 0.q9.lw.ld.n9 0.q9.lv.n6.n9 0.q9.lw.n6.n9 0.pd.lv.n9 0.pd.lw.n9 0.pd.lv.lc.n9",
   "0.pd.lw.lc.n9 0.pd.lv.ld.n9 0.pd.lw.ld.n9 0.pd.lv.n6.n9 0.pd.lw.n6.n9 0.qf.lv.n9 0.qf.lw.n9",
   "0.qf.lv.lc.n9 0.qf.lw.lc.n9 0.qf.lv.ld.n9 0.qf.lw.ld.n9 0.qf.lv.n6.n9 0.qf.lw.n6.n9",
   "0.pj.lv.n9 0.pj.lw.n9 0.pj.lv.lc.n9 0.pj.lw.lc.n9 0.pj.lv.ld.n9 0.pj.lw.ld.n9 0.pj.lv.n6.n9",
   "0.pj.lw.n6.n9 0.qx.lv.n9 0.qx.lw.n9 0.qx.lv.lc.n9 0.qx.lw.lc.n9 0.qx.lv.ld.n9 0.qx.lw.ld.n9",
   "0.qx.lv.n6.n9 0.qx.lw.n6.n9 0.q1.lv.n9 0.q1.lw.n9 0.q1.lv.lc.n9 0.q1.lw.lc.n9 0.q1.lv.ld.n9",
   "0.q1.lw.ld.n9 0.q1.lv.n6.n9 0.q1.lw.n6.n9 0.q9.li 0.q9.lg 0.q9.lc.n9 0.q9.n9 0.q9.ld.n9",
   "1.q9.n6 0.q9.n6.n9 0.pd.li 0.pd.lg 0.pd.lc 1.pd.n9 4.4o.n6 0.qf.lc.n9 0.qf.n9 0.qf.ld.n9",
   "1.qf.n6 0.qf.n6.n9 0.ph.lc 1.pj.lc 1.pj.n9 0.69r.lc 0.69r.ld 0.69r.n6 0.qh.li 0.qh.lg",
   "0.qh.lk.lc 3.qh.n6 0.qh.lk.n6 0.pl.li 0.pl.lg 0.pl.lc 2.6bi.lc 0.6bi.ld 0.6bi.n6 0.qt.li",
   "0.qt.lg 0.qt.lk.lc 1.qp.lv 0.qp.lw 0.qt.n6 0.qt.lk.n6 0.px.li 0.px.lg 0.px.lc 1.pt.lw 0.4o.lc",
   "4.qx.lc.n9 0.qx.n9 0.qx.ld.n9 1.qx.n6 0.qx.n6.n9 0.pr.lc 1.q1.lc 1.q1.n9 bh.6mo.mw 0.6mq.mw",
   "i.6ms.mw u.6og.mw 0.6ok.mw 0.6oi.mw 1g.6pv.mw 4.6q0.mw 2.6q3.mw n.6qr.mw 1.6qt.mw q.6rg.mw",
   "2.6rn.mw 2.6rp.mw 1.6rs.mw m.1p.mw 1.6sh.mw a.6rx.mw 0.1o.mw 0.1q.mw 0.6sk.mw 0.6sl.mw",
   "2.6sy.mw 0.6sz.mw 2.6t2.mw 0.6t3.mw 6.6t6.mw 0.6t7.mw 2.6te.mw 0.6tf.mw 2.6ti.mw 0.6tj.mw",
   "y.6ua.mw 0.6ug.mw 0.6uh.mw 0.6uj.mw 1c.6t8.mw 0.6t9.mw 0.6tt.mw 0.6tu.mw 6.6uq.mw 0.6ur.mw",
   "0.6us.mw 0.6ut.mw 2n2.9jf.9ll 1.9jh.9ll 1.9jj.9ll 1.9jl.9ll 1.9jn.9ll 1.9jp.9ll 1.9jr.9ll",
   "1.9jt.9ll 1.9jv.9ll 1.9jx.9ll 1.9jz.9ll 1.9k1.9ll 2.9k4.9ll 1.9k6.9ll 1.9k8.9ll 6.9kf.9ll",
   "0.9kf.9lm 1.9ki.9ll 0.9ki.9lm 1.9kl.9ll 0.9kl.9lm 1.9ko.9ll 0.9ko.9lm 1.9kr.9ll 0.9kr.9lm",
   "m.9ja.9ll 9.9lp.9ll d.9m3.9ll 1.9m5.9ll 1.9m7.9ll 1.9m9.9ll 1.9mb.9ll 1.9md.9ll 1.9mf.9ll",
   "1.9mh.9ll 1.9mj.9ll 1.9ml.9ll 1.9mn.9ll 1.9mp.9ll 2.9ms.9ll 1.9mu.9ll 1.9mw.9ll 6.9n3.9ll",
   "0.9n3.9lm 1.9n6.9ll 0.9n6.9lm 1.9n9.9ll 0.9n9.9lm 1.9nc.9ll 0.9nc.9lm 1.9nf.9ll 0.9nf.9lm",
   "m.9ly.9ll 2.9nz.9ll 0.9o0.9ll 0.9o1.9ll 0.9o2.9ll 3.9od.9ll 1616.1fpu.lj q.1fq2.lj",
   "245.1huh.1hve 1.1huj.1hve e.1hut.1hve 3m.1hyp.1hyf 0.1hyq.1hyf ez.1idj.1ida 0.1idj.1idz",
   "1i.1if6.1ih5 1.1if8.1igr 8.1iff.1igy 2.1ifk.1ih5 1f.1igy.1igy 1.1igy.1igo 0.1igy.1ih5",
   "6q.1int.1inu 0.1int.1ink 1.1int.1inx 6z.1iuw.1iun 0.1iux.1iun os.1jjp.1jjk e7c.1xr2.1xr2",
   "0.1xr2.1xrd 0.1xr2.1xr3 0.1xrd.1xr3 0.1xr2.1xr4 0.1xr2.1xr2.1xr3 0.1xr2.1xrd.1xr3",
   "0.1xr2.1xr2.1xr4 2f3.206f.206f 0.206b.206f 0.206b.206f.206f"]

end Schemata.Unicode
