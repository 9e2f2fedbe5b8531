import Expectation.Unicode.Ranges

/-!
# Scripts

Every code point belongs to one script; characters shared by several scripts
belong to `common` or `inherited`.
-/

namespace Expectation.Unicode

/-- The scripts. -/
def scripts : List Property := [
  ⟨["adlm", "adlam"],
   ["2olc.23 5.9 5.1"]⟩,
  ⟨["aghb", "caucasianalbanian"],
   ["1flc.1f c"]⟩,
  ⟨["ahom"],
   ["1j40.q 3.e 5.m"]⟩,
  ⟨["arab", "arabic"],
   ["16o.4 2.5 2.d 2.2 2.v 2.9 c.p 2.2z 2.x 29.1b 6p.u 2.1 6.22 2.s 1bv5.36 h.a2 3.27",
    "3.1h 8 x.f 35.4 2.3q 31g.u 1w.2 1k.3 181t.3 2.q 2.1 2 3 2.9 2.3 2 2 7 5 2 2 2.2 2.1",
    "2 3 2 2 2 2 2.1 2 3.3 2.6 2.3 2.3 2 2.9 2.g 6.2 2.4 2.g 1h.1"]⟩,
  ⟨["armi", "imperialaramaic"],
   ["1g74.l 2.8"]⟩,
  ⟨["armn", "armenian"],
   ["10x.11 3.1d 3.2 1chw.4"]⟩,
  ⟨["avst", "avestan"],
   ["1gqo.1h 4.6"]⟩,
  ⟨["bali", "balinese"],
   ["5c0.24 2.1d"]⟩,
  ⟨["bamu", "bamum"],
   ["www.2f 124p.fs"]⟩,
  ⟨["bass", "bassavah"],
   ["1zo0.t 3.5"]⟩,
  ⟨["batk", "batak"],
   ["5hc.1f 9.3"]⟩,
  ⟨["beng", "bengali"],
   ["1vk.3 2.7 3.1 3.l 2.6 2 4.3 3.8 3.1 3.3 9 5.1 2.4 3.o"]⟩,
  ⟨["bhks", "bhaiksuki"],
   ["1k3k.8 2.18 2.d b.s"]⟩,
  ⟨["bopo", "bopomofo"],
   ["kq.1 93u.16 35.v"]⟩,
  ⟨["brah", "brahmi"],
   ["1hq8.25 5.z a"]⟩,
  ⟨["brai", "braille"],
   ["7wg.73"]⟩,
  ⟨["bugi", "buginese"],
   ["54w.r 3.1"]⟩,
  ⟨["buhd", "buhid"],
   ["4lc.j"]⟩,
  ⟨["cakm", "chakma"],
   ["1hxc.1g 2.h"]⟩,
  ⟨["cans", "canadianaboriginal"],
   ["3y8.hr fl.1x 1ewr.f"]⟩,
  ⟨["cari", "carian"],
   ["1f34.1c"]⟩,
  ⟨["cham"],
   ["xkw.1i a.d 3.9 3.3"]⟩,
  ⟨["cher", "cherokee"],
   ["3vk.2d 3.5 twz.27"]⟩,
  ⟨["chrs", "chorasmian"],
   ["1ho0.r"]⟩,
  ⟨["copt", "qaac", "coptic"],
   ["rm.d 80h.37 6.6"]⟩,
  ⟨["cpmn", "cyprominoan"],
   ["1nyo.2q"]⟩,
  ⟨["cprt", "cypriot"],
   ["1g5c.5 3 2.17 2.1 4 3"]⟩,
  ⟨["cyrl", "cyrillic"],
   ["sg.3o 3.4o 4lt.a 4h 25 38o.v nr5.2n han.1 18n5.1p y"]⟩,
  ⟨["deva", "devanagari"],
   ["1s0.28 5.e 3.p vhd.v mip.9"]⟩,
  ⟨["diak", "divesakuru"],
   ["1ji8.6 3 3.7 2.1 2.t 2.1 3.b a.9"]⟩,
  ⟨["dogr", "dogra"],
   ["1jb4.1n"]⟩,
  ⟨["dsrt", "deseret"],
   ["1fcw.27"]⟩,
  ⟨["dupl", "duployan"],
   ["2fpc.2y 6.c 4.8 8.9 3.3"]⟩,
  ⟨["egyp", "egyptianhieroglyphs"],
   ["1o1s.ut b.32y"]⟩,
  ⟨["elba", "elbasan"],
   ["1fk0.13"]⟩,
  ⟨["elym", "elymaic"],
   ["1hpc.m"]⟩,
  ⟨["ethi", "ethiopic"],
   ["3k0.20 2.3 3.6 2 2.3 3.14 2.3 3.w 2.3 3.6 2 2.3 3.e 2.1k 2.3 3.1u 3.v 4.p 547.m a.6",
    "2.6 2.6 2.6 2.6 2.6 2.6 2.6 opv.5 3.5 3.5 a.6 2.6 1qk2.6 2.3 2.1 2.e"]⟩,
  ⟨["gara", "garay"],
   ["1h6o.11 4.s 9.1"]⟩,
  ⟨["geor", "georgian"],
   ["3a8.11 2 6 3.16 2.3 2a9.16 3.2 37l.11 2 6"]⟩,
  ⟨["glag", "glagolitic"],
   ["8ow.2n 2e1t.6 2.g 3.6 2.1 2.4"]⟩,
  ⟨["gong", "gunjalagondi"],
   ["1kdc.5 2.1 2.10 2.1 2.5 8.9"]⟩,
  ⟨["gonm", "masaramgondi"],
   ["1kao.6 2.1 2.17 4 2.1 2.8 9.9"]⟩,
  ⟨["goth", "gothic"],
   ["1f74.q"]⟩,
  ⟨["gran", "grantha"],
   ["1ibk.3 2.7 3.1 3.l 2.6 2.1 2.4 3.8 3.1 3.2 3 7 6.6 3.6 4.4"]⟩,
  ⟨["grek", "greek"],
   ["og.3 2.2 3.3 2 5 2 2.2 2 2.j 2.1q f.f 4yv.4 1f.4 5.4 2d 8x.l 3.5 3.11 3.5 3.7 2 2 2",
    "2.u 3.1g 2.e 2.d 3.5 2.i 3.2 2.8 88 rb3 gyj.26 i 155s.1x"]⟩,
  ⟨["gujr", "gujarati"],
   ["22p.2 2.8 2.2 2.l 2.6 2.1 2.4 3.9 2.2 2.2 3 g.3 3.b 8.6"]⟩,
  ⟨["gukh", "gurungkhema"],
   ["1xq8.1l"]⟩,
  ⟨["guru", "gurmukhi"],
   ["1z5.2 2.5 5.1 3.l 2.6 2.1 2.1 2.1 3 2.4 5.1 3.2 4 8.3 2 8.g"]⟩,
  ⟨["hang", "hangul"],
   ["3cw.73 5yn.1 76.2l 36.u 1u.u nhe.s hw.8mb d.m 5.1c 7tx.u 4.5 3.5 3.5 3.2"]⟩,
  ⟨["hani", "han"],
   ["96o.p 2.2g d.5x 1c 2 q.8 f.3 qt.533 1t.g73 hkx.a5 3.2x n49.1 d.1 sgf.wyn x.37d 7.65",
    "3.4g1 f.5rk g.h9 1wj.f1 15v.3t6 6.38f"]⟩,
  ⟨["hano", "hanunoo"],
   ["4kg.k"]⟩,
  ⟨["hatr", "hatran"],
   ["1gbk.i 2.1 6.4"]⟩,
  ⟨["hebr", "hebrew"],
   ["13l.1i 9.q 5.5 1cfd.p 2.4 2 2.1 2.1 2.9"]⟩,
  ⟨["hira", "hiragana"],
   ["9j5.2d 7.2 23qa.7y j u.2 cry"]⟩,
  ⟨["hluw", "anatolianhieroglyphs"],
   ["1s00.g6"]⟩,
  ⟨["hmng", "pahawhhmong"],
   ["1zpc.1x b.9 2.6 2.k 6.i"]⟩,
  ⟨["hmnp", "nyiakengpuachuehmong"],
   ["2n0g.18 4.d 3.9 5.1"]⟩,
  ⟨["hung", "oldhungarian"],
   ["1h1c.1e e.1e 8.5"]⟩,
  ⟨["ital", "olditalic"],
   ["1f5s.z a.2"]⟩,
  ⟨["java", "javanese"],
   ["xhc.25 3.9 5.1"]⟩,
  ⟨["kali", "kayahli"],
   ["xds.19 2"]⟩,
  ⟨["kana", "katakana"],
   ["9lt.2h 3.2 6p.f 5t.1a 2.2f 14b3.9 2.18 ytv.3 2.6 2.1 2 80.2 1f f.3"]⟩,
  ⟨["kawi"],
   ["1kow.g 2.14 4.s"]⟩,
  ⟨["khar", "kharoshthi"],
   ["1gjk.3 2.1 6.7 2.2 2.s 3.2 5.9 8.8"]⟩,
  ⟨["khmr", "khmer"],
   ["4n4.2l 3.9 7.9 dj.v"]⟩,
  ⟨["khoj", "khojki"],
   ["1i4g.h 2.1a"]⟩,
  ⟨["kits", "khitansmallscript"],
   ["20o4 5cs.d1 16"]⟩,
  ⟨["knda", "kannada"],
   ["2gw.c 2.2 2.m 2.9 2.4 3.8 2.2 2.3 8.1 7.1 2.3 3.9 2.2"]⟩,
  ⟨["krai", "kiratrai"],
   ["205c.1l"]⟩,
  ⟨["kthi", "kaithi"],
   ["1hts.1u b"]⟩,
  ⟨["lana", "taitham"],
   ["55s.1q 2.s 3.a 7.9 7.d"]⟩,
  ⟨["laoo", "lao"],
   ["2v5.1 2 2.4 2.n 2 2.m 3.4 2 2.6 2.9 3.3"]⟩,
  ⟨["latn", "latin"],
   ["1t.p 7.p 1c g 6.m 2.u 2.cg 14.4 55o.11 7.1c 6.3 6.c 2.1x 1u.73 aa e h.c 3y.1 7 s",
    "i.14 254.v o83.2t 4.1u 3.1 2 2.7 m.d mp.16 2.8 2.3 fpz.6 t7.p 7.p 1ly.5 2.15 2.8",
    "16iu.u 7.5"]⟩,
  ⟨["lepc", "lepcha"],
   ["5j4.1j 4.e 4.2"]⟩,
  ⟨["limb", "limbu"],
   ["4xs.u 2.b 5.b 5 4.b"]⟩,
  ⟨["lina", "lineara"],
   ["1fr4.8m a.l b.7"]⟩,
  ⟨["linb", "linearb"],
   ["1ekg.b 2.p 2.i 2.1 2.e 3.d z.3e"]⟩,
  ⟨["lisu"],
   ["wk0.1b o8h"]⟩,
  ⟨["lyci", "lycian"],
   ["1f28.s"]⟩,
  ⟨["lydi", "lydian"],
   ["1gdc.p 6"]⟩,
  ⟨["mahj", "mahajani"],
   ["1hzk.12"]⟩,
  ⟨["maka", "makasar"],
   ["1ko0.o"]⟩,
  ⟨["mand", "mandaic"],
   ["1mo.r 3"]⟩,
  ⟨["mani", "manichaean"],
   ["1gow.12 5.b"]⟩,
  ⟨["marc", "marchen"],
   ["1k6o.v 3.l 2.d"]⟩,
  ⟨["medf", "medefaidrin"],
   ["20cg.2i"]⟩,
  ⟨["mend", "mendekikakui"],
   ["2oe8.5g 3.f"]⟩,
  ⟨["merc", "meroiticcursive"],
   ["1ggw.n 5.j 3.19"]⟩,
  ⟨["mero", "meroitichieroglyphs"],
   ["1gg0.v"]⟩,
  ⟨["mlym", "malayalam"],
   ["2kg.c 2.2 2.1e 2.2 2.5 5.f 3.p"]⟩,
  ⟨["modi"],
   ["1iww.1w c.9"]⟩,
  ⟨["mong", "mongolian"],
   ["4qo.1 3 2.j 7.2g 8.16 1e46.c"]⟩,
  ⟨["mroo", "mro"],
   ["1zk0.u 2.9 5.1"]⟩,
  ⟨["mtei", "meeteimayek"],
   ["xr4.m 5m.19 3.9"]⟩,
  ⟨["mult", "multani"],
   ["1i80.6 2 2.3 2.e 2.a"]⟩,
  ⟨["mymr", "myanmar"],
   ["35s.4f u9t.u 2q.v le9.j"]⟩,
  ⟨["nagm", "nagmundari"],
   ["2nrk.15"]⟩,
  ⟨["nand", "nandinagari"],
   ["1jmo.7 3.19 3.a"]⟩,
  ⟨["narb", "oldnortharabian"],
   ["1gn4.v"]⟩,
  ⟨["nbat", "nabataean"],
   ["1g8w.u 9.8"]⟩,
  ⟨["newa"],
   ["1iio.2j 2.4"]⟩,
  ⟨["nkoo", "nko"],
   ["1j4.1m 3.2"]⟩,
  ⟨["nshu", "nushu"],
   ["20o1 cy7.az"]⟩,
  ⟨["ogam", "ogham"],
   ["4g0.s"]⟩,
  ⟨["olck", "olchiki"],
   ["5lc.1b"]⟩,
  ⟨["onao", "olonal"],
   ["2nyo.16 5"]⟩,
  ⟨["orkh", "oldturkic"],
   ["1gxs.20"]⟩,
  ⟨["orya", "oriya"],
   ["269.2 2.7 3.1 3.l 2.6 2.1 2.4 3.8 3.1 3.2 8.2 5.1 2.4 3.h"]⟩,
  ⟨["osge", "osage"],
   ["1fhs.z 5.z"]⟩,
  ⟨["osma", "osmanya"],
   ["1fgg.t 3.9"]⟩,
  ⟨["ougr", "olduyghur"],
   ["1hm8.p"]⟩,
  ⟨["palm", "palmyrene"],
   ["1g80.v"]⟩,
  ⟨["pauc", "paucinhau"],
   ["1juo.1k"]⟩,
  ⟨["perm", "oldpermic"],
   ["1f80.16"]⟩,
  ⟨["phag", "phagspa"],
   ["x8g.1j"]⟩,
  ⟨["phli", "inscriptionalpahlavi"],
   ["1gtc.i 6.7"]⟩,
  ⟨["phlp", "psalterpahlavi"],
   ["1gu8.h 8.3 d.6"]⟩,
  ⟨["phnx", "phoenician"],
   ["1gcg.r 4"]⟩,
  ⟨["plrd", "miao"],
   ["20hs.22 5.1k 8.g"]⟩,
  ⟨["prti", "inscriptionalparthian"],
   ["1gsg.l 3.7"]⟩,
  ⟨["qaai", "zinh", "inherited"],
   ["lc.33 7q.1 cl.a r kh.3 3fg.u ea.2 2.c 2.6 5 7 4.1 5j.1r el.1 5f.w 30a.3 30.1 14km.f",
    "h.d r4 6b 38b 1139.19 3.m f5.2 i.7 3.6 v.3 h45v.6n"]⟩,
  ⟨["rjng", "rejang"],
   ["xf4.z c"]⟩,
  ⟨["rohg", "hanifirohingya"],
   ["1h4w.13 9.9"]⟩,
  ⟨["runr", "runic"],
   ["4gw.22 4.a"]⟩,
  ⟨["samr", "samaritan"],
   ["1kw.19 3.e"]⟩,
  ⟨["sarb", "oldsoutharabian"],
   ["1gm8.v"]⟩,
  ⟨["saur", "saurashtra"],
   ["xa8.1x 9.b"]⟩,
  ⟨["sgnw", "signwriting"],
   ["2l8g.i3 g.4 2.e"]⟩,
  ⟨["shaw", "shavian"],
   ["1ff4.1b"]⟩,
  ⟨["shrd", "sharada"],
   ["1i0w.2n"]⟩,
  ⟨["sidd", "siddham"],
   ["1itc.1h 3.11"]⟩,
  ⟨["sind", "khudawadi"],
   ["1i9c.1m 6.9"]⟩,
  ⟨["sinh", "sinhala"],
   ["2o1.2 2.h 4.n 2.8 2 3.6 4 5.5 2 2.7 7.9 3.2 1fcd.j"]⟩,
  ⟨["sogd", "sogdian"],
   ["1hkg.15"]⟩,
  ⟨["sogo", "oldsogdian"],
   ["1hj4.13"]⟩,
  ⟨["sora", "sorasompeng"],
   ["1hw0.o 8.9"]⟩,
  ⟨["soyo", "soyombo"],
   ["1jrk.2a"]⟩,
  ⟨["sund", "sundanese"],
   ["5fk.1r 75.7"]⟩,
  ⟨["sunu", "sunuwar"],
   ["1k1s.x f.9"]⟩,
  ⟨["sylo", "sylotinagri"],
   ["x6o.18"]⟩,
  ⟨["syrc", "syriac"],
   ["1ds.d 2.1n 3.2 7l.a"]⟩,
  ⟨["tagb", "tagbanwa"],
   ["4m8.c 2.2 2.1"]⟩,
  ⟨["takr", "takri"],
   ["1j0g.1l 7.9"]⟩,
  ⟨["tale", "taile"],
   ["500.t 3.4"]⟩,
  ⟨["talu", "newtailue"],
   ["51c.17 5.p 7.a 4.1"]⟩,
  ⟨["taml", "tamil"],
   ["29u.1 2.5 4.2 2.3 4.1 2 2.1 4.1 4.2 4.b 5.4 4.2 2.3 3 7 f.k 1ih2.1d e"]⟩,
  ⟨["tang", "tangut"],
   ["20o0 w.4qf 9.lb e9.8"]⟩,
  ⟨["tavt", "taiviet"],
   ["xog.1u p.4"]⟩,
  ⟨["telu", "telugu"],
   ["2dc.c 2.2 2.m 2.f 3.8 2.2 2.3 8.1 2.2 3 3.3 3.9 8.8"]⟩,
  ⟨["tfng", "tifinagh"],
   ["8xc.1j 8.1 f"]⟩,
  ⟨["tglg", "tagalog"],
   ["4jk.l a"]⟩,
  ⟨["thaa", "thaana"],
   ["1hc.1d"]⟩,
  ⟨["thai"],
   ["2rl.1l 6.r"]⟩,
  ⟨["tibt", "tibetan"],
   ["2yo.1z 2.z 5.12 2.z 2.e 2.6 5.1"]⟩,
  ⟨["tirh", "tirhuta"],
   ["1im8.1z 9.9"]⟩,
  ⟨["tnsa", "tangsa"],
   ["1zlc.26 2.9"]⟩,
  ⟨["todr", "todhri"],
   ["1fpc.1f"]⟩,
  ⟨["toto"],
   ["2nbk.u"]⟩,
  ⟨["tutg", "tulutigalari"],
   ["1if4.9 2 3 2.11 2.9 2 3 2.3 2.9 2.1 9.1"]⟩,
  ⟨["ugar", "ugaritic"],
   ["1f9c.t 2"]⟩,
  ⟨["vaii", "vai"],
   ["wlc.8b"]⟩,
  ⟨["vith", "vithkuqi"],
   ["1fn4.a 2.e 2.6 2.1 2.a 2.e 2.6 2.1"]⟩,
  ⟨["wara", "warangciti"],
   ["1jfk.2a d"]⟩,
  ⟨["wcho", "wancho"],
   ["2ncw.1l 6"]⟩,
  ⟨["xpeo", "oldpersian"],
   ["1fa8.z 5.d"]⟩,
  ⟨["xsux", "cuneiform"],
   ["1kw0.pl 2v.32 2.4 c.5f"]⟩,
  ⟨["yezi", "yezidi"],
   ["1hfk.15 2.2 3.1"]⟩,
  ⟨["yiii", "yi"],
   ["vls.wc 4.1i"]⟩,
  ⟨["zanb", "zanabazarsquare"],
   ["1jpc.1z"]⟩,
  ⟨["zyyy", "common"],
   ["0.1s r.5 r.1a 2.e 2.4 o w ci.12 6.4 3.j 39 a 7 2 hq 7 f 4 x 4d ed 3m.1 yi ba.3 83",
    "168.2 20.1 5o.1 2 y6 e 8.3 2.5 2.2 3 li.b 3.2e 2.a 4.a 2.e i.w 1s.11 2.2 3.5 2.q 2.g",
    "16.2 5.ih n.a m.pr 75.hf 3.v 2.2w e9.2l b7.k 2 2.o g.7 5.3 2k.1 4 2j.1 44.f x.11 a",
    "1d.1r w.28 1c 2h.4n 535.1r hkx.x 2v.2 4m.9 6t 4h b0 f.1 g5v.1 5t.9 n.y 2.i 2.3 44",
    "2.v r.5 r.a b 1a.1 1t.6 2.6 b.4 77.2 5.18 4.8 29.c 1g.18 6d.q 10o5.3 319.6x 7.c3",
    "4d.37 1p.6t b.12 3.1p 4.g 9.1 8.t 5.1o 5y.j d.j d.2e a.o 3s.2c 2.1y 2.1 3 3.1 3.3",
    "2.b 2 2.6 2.1s 2.3 3.7 2.6 2.r 2.3 2.4 2 4.6 2.9f 3.83 3.1d 41e.1v 25.1o jn.17 5.2r",
    "d.e 3.e 2.e 2.10 b.4t 1l.p 2.1 e.17 5.8 8.1 f.5 4b.rb 5.g 4.c 4.3a 5.2m 7.b 5 g.b",
    "5.1j 9.9 7.13 9.t 3.b 5.1 1r.9f d.d 3.c 4.9 6.1j 8.e 3.a 7.8 8.42 2.2t gvm0 v.2n"]⟩]

end Expectation.Unicode
