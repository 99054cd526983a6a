/-!
# Characters that are written in several ways

The other ways of writing characters of names, the characters that a letter and a mark
make together, and the classes that order the marks on a letter.
-/

namespace Workflow

namespace Text

namespace Table

/--
Runs of characters that stand for others: `(first, last, image)` says that `first` stands
for `image`, the next one for the one after it, and so on up to `last`.
-/
def variantRuns : Array (Nat × Nat × Nat) :=
  #[
    (0x340, 0x341, 0x300), (0x3f1, 0x3f2, 0x3c1), (0x1d30, 0x1d31, 0x44), (0x1d33, 0x1d3a, 0x47),
    (0x1d40, 0x1d41, 0x54), (0x1d44, 0x1d45, 0x250), (0x1d48, 0x1d49, 0x64),
    (0x1d4b, 0x1d4c, 0x25b), (0x1d54, 0x1d55, 0x1d16), (0x1d57, 0x1d58, 0x74),
    (0x1d5d, 0x1d5f, 0x3b2), (0x1d60, 0x1d61, 0x3c6), (0x1d64, 0x1d65, 0x75),
    (0x1d66, 0x1d67, 0x3b2), (0x1d69, 0x1d6a, 0x3c6), (0x1da4, 0x1da6, 0x268),
    (0x1dae, 0x1db1, 0x272), (0x1db3, 0x1db4, 0x282), (0x1db6, 0x1db7, 0x289),
    (0x1db9, 0x1dba, 0x28b), (0x1dbc, 0x1dbe, 0x290), (0x2096, 0x2099, 0x6b),
    (0x209b, 0x209c, 0x73), (0x2119, 0x211b, 0x50), (0x212c, 0x212d, 0x42),
    (0x2130, 0x2131, 0x45), (0x2135, 0x2138, 0x5d0), (0x2146, 0x2147, 0x64),
    (0x2148, 0x2149, 0x69), (0x216d, 0x216e, 0x43), (0x217d, 0x217e, 0x63),
    (0x3039, 0x303a, 0x5344), (0x3131, 0x3132, 0x1100), (0x3135, 0x3136, 0x11ac),
    (0x3137, 0x3139, 0x1103), (0x313a, 0x313f, 0x11b0), (0x3141, 0x3143, 0x1106),
    (0x3145, 0x314e, 0x1109), (0x314f, 0x3163, 0x1161), (0x3165, 0x3166, 0x1114),
    (0x3167, 0x3168, 0x11c7), (0x3171, 0x3172, 0x111d), (0x3174, 0x3175, 0x1122),
    (0x3178, 0x317c, 0x112b), (0x3182, 0x3183, 0x11f1), (0x3184, 0x3186, 0x1157),
    (0x3187, 0x3188, 0x1184), (0x318a, 0x318b, 0x1191), (0xfa52, 0xfa53, 0x798d),
    (0xfb22, 0xfb23, 0x5d3), (0xfb24, 0xfb26, 0x5db), (0xfb7d, 0xfb7e, 0x686),
    (0xfb9f, 0xfba0, 0x6ba), (0xfba5, 0xfba6, 0x6c0), (0xfbaf, 0xfbb0, 0x6d2),
    (0xfe80, 0xfe81, 0x621), (0xfe82, 0xfe83, 0x622), (0xfe84, 0xfe85, 0x623),
    (0xfe86, 0xfe87, 0x624), (0xfe88, 0xfe89, 0x625), (0xfe8c, 0xfe8d, 0x626),
    (0xfe8e, 0xfe8f, 0x627), (0xfe92, 0xfe93, 0x628), (0xfe94, 0xfe95, 0x629),
    (0xfe98, 0xfe99, 0x62a), (0xfe9c, 0xfe9d, 0x62b), (0xfea0, 0xfea1, 0x62c),
    (0xfea4, 0xfea5, 0x62d), (0xfea8, 0xfea9, 0x62e), (0xfeaa, 0xfeab, 0x62f),
    (0xfeac, 0xfead, 0x630), (0xfeae, 0xfeaf, 0x631), (0xfeb0, 0xfeb1, 0x632),
    (0xfeb4, 0xfeb5, 0x633), (0xfeb8, 0xfeb9, 0x634), (0xfebc, 0xfebd, 0x635),
    (0xfec0, 0xfec1, 0x636), (0xfec4, 0xfec5, 0x637), (0xfec8, 0xfec9, 0x638),
    (0xfecc, 0xfecd, 0x639), (0xfed4, 0xfed5, 0x641), (0xfed8, 0xfed9, 0x642),
    (0xfedc, 0xfedd, 0x643), (0xfee0, 0xfee1, 0x644), (0xfee4, 0xfee5, 0x645),
    (0xfee8, 0xfee9, 0x646), (0xfeec, 0xfeed, 0x647), (0xfeee, 0xfeef, 0x648),
    (0xfef0, 0xfef1, 0x649), (0xff10, 0xff19, 0x30), (0xff21, 0xff3a, 0x41),
    (0xff41, 0xff5a, 0x61), (0xff75, 0xff76, 0x30aa), (0xff85, 0xff8a, 0x30ca),
    (0xff8f, 0xff93, 0x30de), (0xff96, 0xff9b, 0x30e8), (0xff9e, 0xff9f, 0x3099),
    (0xffa1, 0xffa2, 0x1100), (0xffa5, 0xffa6, 0x11ac), (0xffa7, 0xffa9, 0x1103),
    (0xffaa, 0xffaf, 0x11b0), (0xffb1, 0xffb3, 0x1106), (0xffb5, 0xffbe, 0x1109),
    (0xffc2, 0xffc7, 0x1161), (0xffca, 0xffcf, 0x1167), (0xffd2, 0xffd7, 0x116d),
    (0xffda, 0xffdc, 0x1173), (0x10781, 0x10782, 0x2d0), (0x1078b, 0x1078c, 0x256),
    (0x10799, 0x1079a, 0x2aa), (0x107a3, 0x107a4, 0x276), (0x107a8, 0x107a9, 0x27d),
    (0x107b3, 0x107b4, 0x2a1), (0x107b6, 0x107b8, 0x1c0), (0x1d400, 0x1d419, 0x41),
    (0x1d41a, 0x1d433, 0x61), (0x1d434, 0x1d44d, 0x41), (0x1d44e, 0x1d454, 0x61),
    (0x1d456, 0x1d467, 0x69), (0x1d468, 0x1d481, 0x41), (0x1d482, 0x1d49b, 0x61),
    (0x1d49e, 0x1d49f, 0x43), (0x1d4a5, 0x1d4a6, 0x4a), (0x1d4a9, 0x1d4ac, 0x4e),
    (0x1d4ae, 0x1d4b5, 0x53), (0x1d4b6, 0x1d4b9, 0x61), (0x1d4bd, 0x1d4c3, 0x68),
    (0x1d4c5, 0x1d4cf, 0x70), (0x1d4d0, 0x1d4e9, 0x41), (0x1d4ea, 0x1d503, 0x61),
    (0x1d504, 0x1d505, 0x41), (0x1d507, 0x1d50a, 0x44), (0x1d50d, 0x1d514, 0x4a),
    (0x1d516, 0x1d51c, 0x53), (0x1d51e, 0x1d537, 0x61), (0x1d538, 0x1d539, 0x41),
    (0x1d53b, 0x1d53e, 0x44), (0x1d540, 0x1d544, 0x49), (0x1d54a, 0x1d550, 0x53),
    (0x1d552, 0x1d56b, 0x61), (0x1d56c, 0x1d585, 0x41), (0x1d586, 0x1d59f, 0x61),
    (0x1d5a0, 0x1d5b9, 0x41), (0x1d5ba, 0x1d5d3, 0x61), (0x1d5d4, 0x1d5ed, 0x41),
    (0x1d5ee, 0x1d607, 0x61), (0x1d608, 0x1d621, 0x41), (0x1d622, 0x1d63b, 0x61),
    (0x1d63c, 0x1d655, 0x41), (0x1d656, 0x1d66f, 0x61), (0x1d670, 0x1d689, 0x41),
    (0x1d68a, 0x1d6a3, 0x61), (0x1d6a8, 0x1d6b8, 0x391), (0x1d6ba, 0x1d6c0, 0x3a3),
    (0x1d6c2, 0x1d6da, 0x3b1), (0x1d6e2, 0x1d6f2, 0x391), (0x1d6f4, 0x1d6fa, 0x3a3),
    (0x1d6fc, 0x1d714, 0x3b1), (0x1d71c, 0x1d72c, 0x391), (0x1d72e, 0x1d734, 0x3a3),
    (0x1d736, 0x1d74e, 0x3b1), (0x1d756, 0x1d766, 0x391), (0x1d768, 0x1d76e, 0x3a3),
    (0x1d770, 0x1d788, 0x3b1), (0x1d790, 0x1d7a0, 0x391), (0x1d7a2, 0x1d7a8, 0x3a3),
    (0x1d7aa, 0x1d7c2, 0x3b1), (0x1d7ca, 0x1d7cb, 0x3dc), (0x1d7ce, 0x1d7d7, 0x30),
    (0x1d7d8, 0x1d7e1, 0x30), (0x1d7e2, 0x1d7eb, 0x30), (0x1d7ec, 0x1d7f5, 0x30),
    (0x1d7f6, 0x1d7ff, 0x30), (0x1ee00, 0x1ee01, 0x627), (0x1ee0a, 0x1ee0d, 0x643),
    (0x1ee15, 0x1ee16, 0x62a), (0x1ee2a, 0x1ee2d, 0x643), (0x1ee35, 0x1ee36, 0x62a),
    (0x1ee6c, 0x1ee6d, 0x645), (0x1ee75, 0x1ee76, 0x62a), (0x1ee80, 0x1ee81, 0x627),
    (0x1ee84, 0x1ee85, 0x647), (0x1ee8b, 0x1ee8d, 0x644), (0x1ee95, 0x1ee96, 0x62a),
    (0x1eeab, 0x1eead, 0x644), (0x1eeb5, 0x1eeb6, 0x62a), (0x1fbf0, 0x1fbf9, 0x30),
    (0x2f829, 0x2f82a, 0x5305), (0x2f881, 0x2f882, 0x5de1), (0x2f8f5, 0x2f8f6, 0x6bba),
    (0x2f945, 0x2f946, 0x771e), (0x2f9e8, 0x2f9e9, 0x92d7)]

/-- Other characters and what they stand for, in hexadecimal digits. -/
def variants : String :=
  "aa=61 b5=3bc ba=6f 132=49,4a 133=69,6a 13f=4c,b7 140=6c,b7 149=2bc,6e 17f=73 1c4=44,17d 1c5=44,17e
1c6=64,17e 1c7=4c,4a 1c8=4c,6a 1c9=6c,6a 1ca=4e,4a 1cb=4e,6a 1cc=6e,6a 1f1=44,5a 1f2=44,7a
1f3=64,7a 2b0=68 2b1=266 2b2=6a 2b3=72 2b4=279 2b5=27b 2b6=281 2b7=77 2b8=79 2e0=263 2e1=6c 2e2=73
2e3=78 2e4=295 343=313 344=308,301 374=2b9 387=b7 3d0=3b2 3d1=3b8 3d2=3a5 3d3=38e 3d4=3ab 3d5=3c6
3d6=3c0 3f0=3ba 3f4=398 3f5=3b5 3f9=3a3 587=565,582 675=627,674 676=648,674 677=6c7,674
678=64a,674 958=915,93c 959=916,93c 95a=917,93c 95b=91c,93c 95c=921,93c 95d=922,93c 95e=92b,93c
95f=92f,93c 9dc=9a1,9bc 9dd=9a2,9bc 9df=9af,9bc a33=a32,a3c a36=a38,a3c a59=a16,a3c a5a=a17,a3c
a5b=a1c,a3c a5e=a2b,a3c b5c=b21,b3c b5d=b22,b3c e33=e4d,e32 eb3=ecd,eb2 edc=eab,e99 edd=eab,ea1
f43=f42,fb7 f4d=f4c,fb7 f52=f51,fb7 f57=f56,fb7 f5c=f5b,fb7 f69=f40,fb5 f73=f71,f72 f75=f71,f74
f76=fb2,f80 f77=fb2,f71,f80 f78=fb3,f80 f79=fb3,f71,f80 f81=f71,f80 f93=f92,fb7 f9d=f9c,fb7
fa2=fa1,fb7 fa7=fa6,fb7 fac=fab,fb7 fb9=f90,fb5 10fc=10dc 1d2c=41 1d2d=c6 1d2e=42 1d32=18e 1d3c=4f
1d3d=222 1d3e=50 1d3f=52 1d42=57 1d43=61 1d46=1d02 1d47=62 1d4a=259 1d4d=67 1d4f=6b 1d50=6d
1d51=14b 1d52=6f 1d53=254 1d56=70 1d59=1d1d 1d5a=26f 1d5b=76 1d5c=1d25 1d62=69 1d63=72 1d68=3c1
1d78=43d 1d9b=252 1d9c=63 1d9d=255 1d9e=f0 1d9f=25c 1da0=66 1da1=25f 1da2=261 1da3=265 1da7=1d7b
1da8=29d 1da9=26d 1daa=1d85 1dab=29f 1dac=271 1dad=270 1db2=278 1db5=1ab 1db8=1d1c 1dbb=7a
1dbf=3b8 1e9a=61,2be 1e9b=1e61 1f71=3ac 1f73=3ad 1f75=3ae 1f77=3af 1f79=3cc 1f7b=3cd 1f7d=3ce
1fbb=386 1fbe=3b9 1fc9=388 1fcb=389 1fd3=390 1fdb=38a 1fe3=3b0 1feb=38e 1ff9=38c 1ffb=38f 2071=69
207f=6e 2090=61 2091=65 2092=6f 2093=78 2094=259 2095=68 209a=70 2102=43 2107=190 210a=67 210b=48
210c=48 210d=48 210e=68 210f=127 2110=49 2111=49 2112=4c 2113=6c 2115=4e 211c=52 211d=52 2124=5a
2126=3a9 2128=5a 212a=4b 212b=c5 212f=65 2133=4d 2134=6f 2139=69 213c=3c0 213d=3b3 213e=393
213f=3a0 2145=44 2160=49 2161=49,49 2162=49,49,49 2163=49,56 2164=56 2165=56,49 2166=56,49,49
2167=56,49,49,49 2168=49,58 2169=58 216a=58,49 216b=58,49,49 216c=4c 216f=4d 2170=69 2171=69,69
2172=69,69,69 2173=69,76 2174=76 2175=76,69 2176=76,69,69 2177=76,69,69,69 2178=69,78 2179=78
217a=78,69 217b=78,69,69 217c=6c 217f=6d 2c7c=6a 2c7d=56 2d6f=2d61 3038=5341 309f=3088,308a
30ff=30b3,30c8 3133=11aa 3134=1102 3140=111a 3144=1121 3164=1160 3169=11cc 316a=11ce 316b=11d3
316c=11d7 316d=11d9 316e=111c 316f=11dd 3170=11df 3173=1120 3176=1127 3177=1129 317d=1132
317e=1136 317f=1140 3180=1147 3181=114c 3189=1188 318c=1194 318d=119e 318e=11a1 a69c=44a a69d=44c
a770=a76f a7f2=43 a7f3=46 a7f4=51 a7f8=126 a7f9=153 ab5c=a727 ab5d=ab37 ab5e=26b ab5f=ab52
ab69=28d f900=8c48 f901=66f4 f902=8eca f903=8cc8 f904=6ed1 f905=4e32 f906=53e5 f907=9f9c f908=9f9c
f909=5951 f90a=91d1 f90b=5587 f90c=5948 f90d=61f6 f90e=7669 f90f=7f85 f910=863f f911=87ba
f912=88f8 f913=908f f914=6a02 f915=6d1b f916=70d9 f917=73de f918=843d f919=916a f91a=99f1
f91b=4e82 f91c=5375 f91d=6b04 f91e=721b f91f=862d f920=9e1e f921=5d50 f922=6feb f923=85cd
f924=8964 f925=62c9 f926=81d8 f927=881f f928=5eca f929=6717 f92a=6d6a f92b=72fc f92c=90ce
f92d=4f86 f92e=51b7 f92f=52de f930=64c4 f931=6ad3 f932=7210 f933=76e7 f934=8001 f935=8606
f936=865c f937=8def f938=9732 f939=9b6f f93a=9dfa f93b=788c f93c=797f f93d=7da0 f93e=83c9
f93f=9304 f940=9e7f f941=8ad6 f942=58df f943=5f04 f944=7c60 f945=807e f946=7262 f947=78ca
f948=8cc2 f949=96f7 f94a=58d8 f94b=5c62 f94c=6a13 f94d=6dda f94e=6f0f f94f=7d2f f950=7e37
f951=964b f952=52d2 f953=808b f954=51dc f955=51cc f956=7a1c f957=7dbe f958=83f1 f959=9675
f95a=8b80 f95b=62cf f95c=6a02 f95d=8afe f95e=4e39 f95f=5be7 f960=6012 f961=7387 f962=7570
f963=5317 f964=78fb f965=4fbf f966=5fa9 f967=4e0d f968=6ccc f969=6578 f96a=7d22 f96b=53c3
f96c=585e f96d=7701 f96e=8449 f96f=8aaa f970=6bba f971=8fb0 f972=6c88 f973=62fe f974=82e5
f975=63a0 f976=7565 f977=4eae f978=5169 f979=51c9 f97a=6881 f97b=7ce7 f97c=826f f97d=8ad2
f97e=91cf f97f=52f5 f980=5442 f981=5973 f982=5eec f983=65c5 f984=6ffe f985=792a f986=95ad
f987=9a6a f988=9e97 f989=9ece f98a=529b f98b=66c6 f98c=6b77 f98d=8f62 f98e=5e74 f98f=6190
f990=6200 f991=649a f992=6f23 f993=7149 f994=7489 f995=79ca f996=7df4 f997=806f f998=8f26
f999=84ee f99a=9023 f99b=934a f99c=5217 f99d=52a3 f99e=54bd f99f=70c8 f9a0=88c2 f9a1=8aaa
f9a2=5ec9 f9a3=5ff5 f9a4=637b f9a5=6bae f9a6=7c3e f9a7=7375 f9a8=4ee4 f9a9=56f9 f9aa=5be7
f9ab=5dba f9ac=601c f9ad=73b2 f9ae=7469 f9af=7f9a f9b0=8046 f9b1=9234 f9b2=96f6 f9b3=9748
f9b4=9818 f9b5=4f8b f9b6=79ae f9b7=91b4 f9b8=96b8 f9b9=60e1 f9ba=4e86 f9bb=50da f9bc=5bee
f9bd=5c3f f9be=6599 f9bf=6a02 f9c0=71ce f9c1=7642 f9c2=84fc f9c3=907c f9c4=9f8d f9c5=6688
f9c6=962e f9c7=5289 f9c8=677b f9c9=67f3 f9ca=6d41 f9cb=6e9c f9cc=7409 f9cd=7559 f9ce=786b
f9cf=7d10 f9d0=985e f9d1=516d f9d2=622e f9d3=9678 f9d4=502b f9d5=5d19 f9d6=6dea f9d7=8f2a
f9d8=5f8b f9d9=6144 f9da=6817 f9db=7387 f9dc=9686 f9dd=5229 f9de=540f f9df=5c65 f9e0=6613
f9e1=674e f9e2=68a8 f9e3=6ce5 f9e4=7406 f9e5=75e2 f9e6=7f79 f9e7=88cf f9e8=88e1 f9e9=91cc
f9ea=96e2 f9eb=533f f9ec=6eba f9ed=541d f9ee=71d0 f9ef=7498 f9f0=85fa f9f1=96a3 f9f2=9c57
f9f3=9e9f f9f4=6797 f9f5=6dcb f9f6=81e8 f9f7=7acb f9f8=7b20 f9f9=7c92 f9fa=72c0 f9fb=7099
f9fc=8b58 f9fd=4ec0 f9fe=8336 f9ff=523a fa00=5207 fa01=5ea6 fa02=62d3 fa03=7cd6 fa04=5b85
fa05=6d1e fa06=66b4 fa07=8f3b fa08=884c fa09=964d fa0a=898b fa0b=5ed3 fa0c=5140 fa0d=55c0
fa10=585a fa12=6674 fa15=51de fa16=732a fa17=76ca fa18=793c fa19=795e fa1a=7965 fa1b=798f
fa1c=9756 fa1d=7cbe fa1e=7fbd fa20=8612 fa22=8af8 fa25=9038 fa26=90fd fa2a=98ef fa2b=98fc
fa2c=9928 fa2d=9db4 fa2e=90de fa2f=96b7 fa30=4fae fa31=50e7 fa32=514d fa33=52c9 fa34=52e4
fa35=5351 fa36=559d fa37=5606 fa38=5668 fa39=5840 fa3a=58a8 fa3b=5c64 fa3c=5c6e fa3d=6094
fa3e=6168 fa3f=618e fa40=61f2 fa41=654f fa42=65e2 fa43=6691 fa44=6885 fa45=6d77 fa46=6e1a
fa47=6f22 fa48=716e fa49=722b fa4a=7422 fa4b=7891 fa4c=793e fa4d=7949 fa4e=7948 fa4f=7950
fa50=7956 fa51=795d fa54=7a40 fa55=7a81 fa56=7bc0 fa57=7df4 fa58=7e09 fa59=7e41 fa5a=7f72
fa5b=8005 fa5c=81ed fa5d=8279 fa5e=8279 fa5f=8457 fa60=8910 fa61=8996 fa62=8b01 fa63=8b39
fa64=8cd3 fa65=8d08 fa66=8fb6 fa67=9038 fa68=96e3 fa69=97ff fa6a=983b fa6b=6075 fa6c=242ee
fa6d=8218 fa70=4e26 fa71=51b5 fa72=5168 fa73=4f80 fa74=5145 fa75=5180 fa76=52c7 fa77=52fa
fa78=559d fa79=5555 fa7a=5599 fa7b=55e2 fa7c=585a fa7d=58b3 fa7e=5944 fa7f=5954 fa80=5a62
fa81=5b28 fa82=5ed2 fa83=5ed9 fa84=5f69 fa85=5fad fa86=60d8 fa87=614e fa88=6108 fa89=618e
fa8a=6160 fa8b=61f2 fa8c=6234 fa8d=63c4 fa8e=641c fa8f=6452 fa90=6556 fa91=6674 fa92=6717
fa93=671b fa94=6756 fa95=6b79 fa96=6bba fa97=6d41 fa98=6edb fa99=6ecb fa9a=6f22 fa9b=701e
fa9c=716e fa9d=77a7 fa9e=7235 fa9f=72af faa0=732a faa1=7471 faa2=7506 faa3=753b faa4=761d
faa5=761f faa6=76ca faa7=76db faa8=76f4 faa9=774a faaa=7740 faab=78cc faac=7ab1 faad=7bc0
faae=7c7b faaf=7d5b fab0=7df4 fab1=7f3e fab2=8005 fab3=8352 fab4=83ef fab5=8779 fab6=8941
fab7=8986 fab8=8996 fab9=8abf faba=8af8 fabb=8acb fabc=8b01 fabd=8afe fabe=8aed fabf=8b39
fac0=8b8a fac1=8d08 fac2=8f38 fac3=9072 fac4=9199 fac5=9276 fac6=967c fac7=96e3 fac8=9756
fac9=97db faca=97ff facb=980b facc=983b facd=9b12 face=9f9c facf=2284a fad0=22844 fad1=233d5
fad2=3b9d fad3=4018 fad4=4039 fad5=25249 fad6=25cd0 fad7=27ed3 fad8=9f43 fad9=9f8e fb00=66,66
fb01=66,69 fb02=66,6c fb03=66,66,69 fb04=66,66,6c fb05=73,74 fb06=73,74 fb13=574,576 fb14=574,565
fb15=574,56b fb16=57e,576 fb17=574,56d fb1d=5d9,5b4 fb1f=5f2,5b7 fb20=5e2 fb21=5d0 fb27=5e8
fb28=5ea fb2a=5e9,5c1 fb2b=5e9,5c2 fb2c=5e9,5bc,5c1 fb2d=5e9,5bc,5c2 fb2e=5d0,5b7 fb2f=5d0,5b8
fb30=5d0,5bc fb31=5d1,5bc fb32=5d2,5bc fb33=5d3,5bc fb34=5d4,5bc fb35=5d5,5bc fb36=5d6,5bc
fb38=5d8,5bc fb39=5d9,5bc fb3a=5da,5bc fb3b=5db,5bc fb3c=5dc,5bc fb3e=5de,5bc fb40=5e0,5bc
fb41=5e1,5bc fb43=5e3,5bc fb44=5e4,5bc fb46=5e6,5bc fb47=5e7,5bc fb48=5e8,5bc fb49=5e9,5bc
fb4a=5ea,5bc fb4b=5d5,5b9 fb4c=5d1,5bf fb4d=5db,5bf fb4e=5e4,5bf fb4f=5d0,5dc fb50=671 fb51=671
fb52=67b fb53=67b fb54=67b fb55=67b fb56=67e fb57=67e fb58=67e fb59=67e fb5a=680 fb5b=680 fb5c=680
fb5d=680 fb5e=67a fb5f=67a fb60=67a fb61=67a fb62=67f fb63=67f fb64=67f fb65=67f fb66=679 fb67=679
fb68=679 fb69=679 fb6a=6a4 fb6b=6a4 fb6c=6a4 fb6d=6a4 fb6e=6a6 fb6f=6a6 fb70=6a6 fb71=6a6 fb72=684
fb73=684 fb74=684 fb75=684 fb76=683 fb77=683 fb78=683 fb79=683 fb7a=686 fb7b=686 fb7c=686 fb7f=687
fb80=687 fb81=687 fb82=68d fb83=68d fb84=68c fb85=68c fb86=68e fb87=68e fb88=688 fb89=688 fb8a=698
fb8b=698 fb8c=691 fb8d=691 fb8e=6a9 fb8f=6a9 fb90=6a9 fb91=6a9 fb92=6af fb93=6af fb94=6af fb95=6af
fb96=6b3 fb97=6b3 fb98=6b3 fb99=6b3 fb9a=6b1 fb9b=6b1 fb9c=6b1 fb9d=6b1 fb9e=6ba fba1=6bb fba2=6bb
fba3=6bb fba4=6c0 fba7=6c1 fba8=6c1 fba9=6c1 fbaa=6be fbab=6be fbac=6be fbad=6be fbae=6d2 fbb1=6d3
fbd3=6ad fbd4=6ad fbd5=6ad fbd6=6ad fbd7=6c7 fbd8=6c7 fbd9=6c6 fbda=6c6 fbdb=6c8 fbdc=6c8
fbdd=6c7,674 fbde=6cb fbdf=6cb fbe0=6c5 fbe1=6c5 fbe2=6c9 fbe3=6c9 fbe4=6d0 fbe5=6d0 fbe6=6d0
fbe7=6d0 fbe8=649 fbe9=649 fbea=626,627 fbeb=626,627 fbec=626,6d5 fbed=626,6d5 fbee=626,648
fbef=626,648 fbf0=626,6c7 fbf1=626,6c7 fbf2=626,6c6 fbf3=626,6c6 fbf4=626,6c8 fbf5=626,6c8
fbf6=626,6d0 fbf7=626,6d0 fbf8=626,6d0 fbf9=626,649 fbfa=626,649 fbfb=626,649 fbfc=6cc fbfd=6cc
fbfe=6cc fbff=6cc fc00=626,62c fc01=626,62d fc02=626,645 fc03=626,649 fc04=626,64a fc05=628,62c
fc06=628,62d fc07=628,62e fc08=628,645 fc09=628,649 fc0a=628,64a fc0b=62a,62c fc0c=62a,62d
fc0d=62a,62e fc0e=62a,645 fc0f=62a,649 fc10=62a,64a fc11=62b,62c fc12=62b,645 fc13=62b,649
fc14=62b,64a fc15=62c,62d fc16=62c,645 fc17=62d,62c fc18=62d,645 fc19=62e,62c fc1a=62e,62d
fc1b=62e,645 fc1c=633,62c fc1d=633,62d fc1e=633,62e fc1f=633,645 fc20=635,62d fc21=635,645
fc22=636,62c fc23=636,62d fc24=636,62e fc25=636,645 fc26=637,62d fc27=637,645 fc28=638,645
fc29=639,62c fc2a=639,645 fc2b=63a,62c fc2c=63a,645 fc2d=641,62c fc2e=641,62d fc2f=641,62e
fc30=641,645 fc31=641,649 fc32=641,64a fc33=642,62d fc34=642,645 fc35=642,649 fc36=642,64a
fc37=643,627 fc38=643,62c fc39=643,62d fc3a=643,62e fc3b=643,644 fc3c=643,645 fc3d=643,649
fc3e=643,64a fc3f=644,62c fc40=644,62d fc41=644,62e fc42=644,645 fc43=644,649 fc44=644,64a
fc45=645,62c fc46=645,62d fc47=645,62e fc48=645,645 fc49=645,649 fc4a=645,64a fc4b=646,62c
fc4c=646,62d fc4d=646,62e fc4e=646,645 fc4f=646,649 fc50=646,64a fc51=647,62c fc52=647,645
fc53=647,649 fc54=647,64a fc55=64a,62c fc56=64a,62d fc57=64a,62e fc58=64a,645 fc59=64a,649
fc5a=64a,64a fc5b=630,670 fc5c=631,670 fc5d=649,670 fc64=626,631 fc65=626,632 fc66=626,645
fc67=626,646 fc68=626,649 fc69=626,64a fc6a=628,631 fc6b=628,632 fc6c=628,645 fc6d=628,646
fc6e=628,649 fc6f=628,64a fc70=62a,631 fc71=62a,632 fc72=62a,645 fc73=62a,646 fc74=62a,649
fc75=62a,64a fc76=62b,631 fc77=62b,632 fc78=62b,645 fc79=62b,646 fc7a=62b,649 fc7b=62b,64a
fc7c=641,649 fc7d=641,64a fc7e=642,649 fc7f=642,64a fc80=643,627 fc81=643,644 fc82=643,645
fc83=643,649 fc84=643,64a fc85=644,645 fc86=644,649 fc87=644,64a fc88=645,627 fc89=645,645
fc8a=646,631 fc8b=646,632 fc8c=646,645 fc8d=646,646 fc8e=646,649 fc8f=646,64a fc90=649,670
fc91=64a,631 fc92=64a,632 fc93=64a,645 fc94=64a,646 fc95=64a,649 fc96=64a,64a fc97=626,62c
fc98=626,62d fc99=626,62e fc9a=626,645 fc9b=626,647 fc9c=628,62c fc9d=628,62d fc9e=628,62e
fc9f=628,645 fca0=628,647 fca1=62a,62c fca2=62a,62d fca3=62a,62e fca4=62a,645 fca5=62a,647
fca6=62b,645 fca7=62c,62d fca8=62c,645 fca9=62d,62c fcaa=62d,645 fcab=62e,62c fcac=62e,645
fcad=633,62c fcae=633,62d fcaf=633,62e fcb0=633,645 fcb1=635,62d fcb2=635,62e fcb3=635,645
fcb4=636,62c fcb5=636,62d fcb6=636,62e fcb7=636,645 fcb8=637,62d fcb9=638,645 fcba=639,62c
fcbb=639,645 fcbc=63a,62c fcbd=63a,645 fcbe=641,62c fcbf=641,62d fcc0=641,62e fcc1=641,645
fcc2=642,62d fcc3=642,645 fcc4=643,62c fcc5=643,62d fcc6=643,62e fcc7=643,644 fcc8=643,645
fcc9=644,62c fcca=644,62d fccb=644,62e fccc=644,645 fccd=644,647 fcce=645,62c fccf=645,62d
fcd0=645,62e fcd1=645,645 fcd2=646,62c fcd3=646,62d fcd4=646,62e fcd5=646,645 fcd6=646,647
fcd7=647,62c fcd8=647,645 fcd9=647,670 fcda=64a,62c fcdb=64a,62d fcdc=64a,62e fcdd=64a,645
fcde=64a,647 fcdf=626,645 fce0=626,647 fce1=628,645 fce2=628,647 fce3=62a,645 fce4=62a,647
fce5=62b,645 fce6=62b,647 fce7=633,645 fce8=633,647 fce9=634,645 fcea=634,647 fceb=643,644
fcec=643,645 fced=644,645 fcee=646,645 fcef=646,647 fcf0=64a,645 fcf1=64a,647 fcf2=640,64e,651
fcf3=640,64f,651 fcf4=640,650,651 fcf5=637,649 fcf6=637,64a fcf7=639,649 fcf8=639,64a fcf9=63a,649
fcfa=63a,64a fcfb=633,649 fcfc=633,64a fcfd=634,649 fcfe=634,64a fcff=62d,649 fd00=62d,64a
fd01=62c,649 fd02=62c,64a fd03=62e,649 fd04=62e,64a fd05=635,649 fd06=635,64a fd07=636,649
fd08=636,64a fd09=634,62c fd0a=634,62d fd0b=634,62e fd0c=634,645 fd0d=634,631 fd0e=633,631
fd0f=635,631 fd10=636,631 fd11=637,649 fd12=637,64a fd13=639,649 fd14=639,64a fd15=63a,649
fd16=63a,64a fd17=633,649 fd18=633,64a fd19=634,649 fd1a=634,64a fd1b=62d,649 fd1c=62d,64a
fd1d=62c,649 fd1e=62c,64a fd1f=62e,649 fd20=62e,64a fd21=635,649 fd22=635,64a fd23=636,649
fd24=636,64a fd25=634,62c fd26=634,62d fd27=634,62e fd28=634,645 fd29=634,631 fd2a=633,631
fd2b=635,631 fd2c=636,631 fd2d=634,62c fd2e=634,62d fd2f=634,62e fd30=634,645 fd31=633,647
fd32=634,647 fd33=637,645 fd34=633,62c fd35=633,62d fd36=633,62e fd37=634,62c fd38=634,62d
fd39=634,62e fd3a=637,645 fd3b=638,645 fd3c=627,64b fd3d=627,64b fd50=62a,62c,645 fd51=62a,62d,62c
fd52=62a,62d,62c fd53=62a,62d,645 fd54=62a,62e,645 fd55=62a,645,62c fd56=62a,645,62d
fd57=62a,645,62e fd58=62c,645,62d fd59=62c,645,62d fd5a=62d,645,64a fd5b=62d,645,649
fd5c=633,62d,62c fd5d=633,62c,62d fd5e=633,62c,649 fd5f=633,645,62d fd60=633,645,62d
fd61=633,645,62c fd62=633,645,645 fd63=633,645,645 fd64=635,62d,62d fd65=635,62d,62d
fd66=635,645,645 fd67=634,62d,645 fd68=634,62d,645 fd69=634,62c,64a fd6a=634,645,62e
fd6b=634,645,62e fd6c=634,645,645 fd6d=634,645,645 fd6e=636,62d,649 fd6f=636,62e,645
fd70=636,62e,645 fd71=637,645,62d fd72=637,645,62d fd73=637,645,645 fd74=637,645,64a
fd75=639,62c,645 fd76=639,645,645 fd77=639,645,645 fd78=639,645,649 fd79=63a,645,645
fd7a=63a,645,64a fd7b=63a,645,649 fd7c=641,62e,645 fd7d=641,62e,645 fd7e=642,645,62d
fd7f=642,645,645 fd80=644,62d,645 fd81=644,62d,64a fd82=644,62d,649 fd83=644,62c,62c
fd84=644,62c,62c fd85=644,62e,645 fd86=644,62e,645 fd87=644,645,62d fd88=644,645,62d
fd89=645,62d,62c fd8a=645,62d,645 fd8b=645,62d,64a fd8c=645,62c,62d fd8d=645,62c,645
fd8e=645,62e,62c fd8f=645,62e,645 fd92=645,62c,62e fd93=647,645,62c fd94=647,645,645
fd95=646,62d,645 fd96=646,62d,649 fd97=646,62c,645 fd98=646,62c,645 fd99=646,62c,649
fd9a=646,645,64a fd9b=646,645,649 fd9c=64a,645,645 fd9d=64a,645,645 fd9e=628,62e,64a
fd9f=62a,62c,64a fda0=62a,62c,649 fda1=62a,62e,64a fda2=62a,62e,649 fda3=62a,645,64a
fda4=62a,645,649 fda5=62c,645,64a fda6=62c,62d,649 fda7=62c,645,649 fda8=633,62e,649
fda9=635,62d,64a fdaa=634,62d,64a fdab=636,62d,64a fdac=644,62c,64a fdad=644,645,64a
fdae=64a,62d,64a fdaf=64a,62c,64a fdb0=64a,645,64a fdb1=645,645,64a fdb2=642,645,64a
fdb3=646,62d,64a fdb4=642,645,62d fdb5=644,62d,645 fdb6=639,645,64a fdb7=643,645,64a
fdb8=646,62c,62d fdb9=645,62e,64a fdba=644,62c,645 fdbb=643,645,645 fdbc=644,62c,645
fdbd=646,62c,62d fdbe=62c,62d,64a fdbf=62d,62c,64a fdc0=645,62c,64a fdc1=641,645,64a
fdc2=628,62d,64a fdc3=643,645,645 fdc4=639,62c,645 fdc5=635,645,645 fdc6=633,62e,64a
fdc7=646,62c,64a fdf0=635,644,6d2 fdf1=642,644,6d2 fdf2=627,644,644,647 fdf3=627,643,628,631
fdf4=645,62d,645,62f fdf5=635,644,639,645 fdf6=631,633,648,644 fdf7=639,644,64a,647
fdf8=648,633,644,645 fdf9=635,644,649 fe33=5f fe34=5f fe4d=5f fe4e=5f fe4f=5f fe71=640,64b
fe77=640,64e fe79=640,64f fe7b=640,650 fe7d=640,651 fe7f=640,652 fe8a=626 fe8b=626 fe90=628
fe91=628 fe96=62a fe97=62a fe9a=62b fe9b=62b fe9e=62c fe9f=62c fea2=62d fea3=62d fea6=62e fea7=62e
feb2=633 feb3=633 feb6=634 feb7=634 feba=635 febb=635 febe=636 febf=636 fec2=637 fec3=637 fec6=638
fec7=638 feca=639 fecb=639 fece=63a fecf=63a fed0=63a fed1=641 fed2=641 fed3=641 fed6=642 fed7=642
feda=643 fedb=643 fede=644 fedf=644 fee2=645 fee3=645 fee6=646 fee7=646 feea=647 feeb=647 fef2=64a
fef3=64a fef4=64a fef5=644,622 fef6=644,622 fef7=644,623 fef8=644,623 fef9=644,625 fefa=644,625
fefb=644,627 fefc=644,627 ff3f=5f ff66=30f2 ff67=30a1 ff68=30a3 ff69=30a5 ff6a=30a7 ff6b=30a9
ff6c=30e3 ff6d=30e5 ff6e=30e7 ff6f=30c3 ff70=30fc ff71=30a2 ff72=30a4 ff73=30a6 ff74=30a8
ff77=30ad ff78=30af ff79=30b1 ff7a=30b3 ff7b=30b5 ff7c=30b7 ff7d=30b9 ff7e=30bb ff7f=30bd
ff80=30bf ff81=30c1 ff82=30c4 ff83=30c6 ff84=30c8 ff8b=30d2 ff8c=30d5 ff8d=30d8 ff8e=30db
ff94=30e4 ff95=30e6 ff9c=30ef ff9d=30f3 ffa0=1160 ffa3=11aa ffa4=1102 ffb0=111a ffb4=1121 10783=e6
10784=299 10785=253 10787=2a3 10788=ab66 10789=2a5 1078a=2a4 1078d=1d91 1078e=258 1078f=25e
10790=2a9 10791=264 10792=262 10793=260 10794=29b 10795=127 10796=29c 10797=267 10798=284
1079b=26c 1079c=1df04 1079d=a78e 1079e=26e 1079f=1df05 107a0=28e 107a1=1df06 107a2=f8 107a5=71
107a6=27a 107a7=1df08 107aa=280 107ab=2a8 107ac=2a6 107ad=ab67 107ae=2a7 107af=288 107b0=2c71
107b2=28f 107b5=298 107b9=1df0a 107ba=1df1e 1d49c=41 1d4a2=47 1d4bb=66 1d546=4f 1d6a4=131
1d6a5=237 1d6b9=398 1d6dc=3b5 1d6dd=3b8 1d6de=3ba 1d6df=3c6 1d6e0=3c1 1d6e1=3c0 1d6f3=398
1d716=3b5 1d717=3b8 1d718=3ba 1d719=3c6 1d71a=3c1 1d71b=3c0 1d72d=398 1d750=3b5 1d751=3b8
1d752=3ba 1d753=3c6 1d754=3c1 1d755=3c0 1d767=398 1d78a=3b5 1d78b=3b8 1d78c=3ba 1d78d=3c6
1d78e=3c1 1d78f=3c0 1d7a1=398 1d7c4=3b5 1d7c5=3b8 1d7c6=3ba 1d7c7=3c6 1d7c8=3c1 1d7c9=3c0
1ee02=62c 1ee03=62f 1ee05=648 1ee06=632 1ee07=62d 1ee08=637 1ee09=64a 1ee0e=633 1ee0f=639
1ee10=641 1ee11=635 1ee12=642 1ee13=631 1ee14=634 1ee17=62e 1ee18=630 1ee19=636 1ee1a=638
1ee1b=63a 1ee1c=66e 1ee1d=6ba 1ee1e=6a1 1ee1f=66f 1ee21=628 1ee22=62c 1ee24=647 1ee27=62d
1ee29=64a 1ee2e=633 1ee2f=639 1ee30=641 1ee31=635 1ee32=642 1ee34=634 1ee37=62e 1ee39=636
1ee3b=63a 1ee42=62c 1ee47=62d 1ee49=64a 1ee4b=644 1ee4d=646 1ee4e=633 1ee4f=639 1ee51=635
1ee52=642 1ee54=634 1ee57=62e 1ee59=636 1ee5b=63a 1ee5d=6ba 1ee5f=66f 1ee61=628 1ee62=62c
1ee64=647 1ee67=62d 1ee68=637 1ee69=64a 1ee6a=643 1ee6e=633 1ee6f=639 1ee70=641 1ee71=635
1ee72=642 1ee74=634 1ee77=62e 1ee79=636 1ee7a=638 1ee7b=63a 1ee7c=66e 1ee7e=6a1 1ee82=62c
1ee83=62f 1ee86=632 1ee87=62d 1ee88=637 1ee89=64a 1ee8e=633 1ee8f=639 1ee90=641 1ee91=635
1ee92=642 1ee93=631 1ee94=634 1ee97=62e 1ee98=630 1ee99=636 1ee9a=638 1ee9b=63a 1eea1=628
1eea2=62c 1eea3=62f 1eea5=648 1eea6=632 1eea7=62d 1eea8=637 1eea9=64a 1eeae=633 1eeaf=639
1eeb0=641 1eeb1=635 1eeb2=642 1eeb3=631 1eeb4=634 1eeb7=62e 1eeb8=630 1eeb9=636 1eeba=638
1eebb=63a 2f800=4e3d 2f801=4e38 2f802=4e41 2f803=20122 2f804=4f60 2f805=4fae 2f806=4fbb 2f807=5002
2f808=507a 2f809=5099 2f80a=50e7 2f80b=50cf 2f80c=349e 2f80d=2063a 2f80e=514d 2f80f=5154
2f810=5164 2f811=5177 2f812=2051c 2f813=34b9 2f814=5167 2f815=518d 2f816=2054b 2f817=5197
2f818=51a4 2f819=4ecc 2f81a=51ac 2f81b=51b5 2f81c=291df 2f81d=51f5 2f81e=5203 2f81f=34df
2f820=523b 2f821=5246 2f822=5272 2f823=5277 2f824=3515 2f825=52c7 2f826=52c9 2f827=52e4 2f828=52fa
2f82b=5317 2f82c=5349 2f82d=5351 2f82e=535a 2f82f=5373 2f830=537d 2f831=537f 2f832=537f 2f833=537f
2f834=20a2c 2f835=7070 2f836=53ca 2f837=53df 2f838=20b63 2f839=53eb 2f83a=53f1 2f83b=5406
2f83c=549e 2f83d=5438 2f83e=5448 2f83f=5468 2f840=54a2 2f841=54f6 2f842=5510 2f843=5553 2f844=5563
2f845=5584 2f846=5584 2f847=5599 2f848=55ab 2f849=55b3 2f84a=55c2 2f84b=5716 2f84c=5606 2f84d=5717
2f84e=5651 2f84f=5674 2f850=5207 2f851=58ee 2f852=57ce 2f853=57f4 2f854=580d 2f855=578b 2f856=5832
2f857=5831 2f858=58ac 2f859=214e4 2f85a=58f2 2f85b=58f7 2f85c=5906 2f85d=591a 2f85e=5922
2f85f=5962 2f860=216a8 2f861=216ea 2f862=59ec 2f863=5a1b 2f864=5a27 2f865=59d8 2f866=5a66
2f867=36ee 2f868=36fc 2f869=5b08 2f86a=5b3e 2f86b=5b3e 2f86c=219c8 2f86d=5bc3 2f86e=5bd8
2f86f=5be7 2f870=5bf3 2f871=21b18 2f872=5bff 2f873=5c06 2f874=5f53 2f875=5c22 2f876=3781
2f877=5c60 2f878=5c6e 2f879=5cc0 2f87a=5c8d 2f87b=21de4 2f87c=5d43 2f87d=21de6 2f87e=5d6e
2f87f=5d6b 2f880=5d7c 2f883=382f 2f884=5dfd 2f885=5e28 2f886=5e3d 2f887=5e69 2f888=3862
2f889=22183 2f88a=387c 2f88b=5eb0 2f88c=5eb3 2f88d=5eb6 2f88e=5eca 2f88f=2a392 2f890=5efe
2f891=22331 2f892=22331 2f893=8201 2f894=5f22 2f895=5f22 2f896=38c7 2f897=232b8 2f898=261da
2f899=5f62 2f89a=5f6b 2f89b=38e3 2f89c=5f9a 2f89d=5fcd 2f89e=5fd7 2f89f=5ff9 2f8a0=6081 2f8a1=393a
2f8a2=391c 2f8a3=6094 2f8a4=226d4 2f8a5=60c7 2f8a6=6148 2f8a7=614c 2f8a8=614e 2f8a9=614c
2f8aa=617a 2f8ab=618e 2f8ac=61b2 2f8ad=61a4 2f8ae=61af 2f8af=61de 2f8b0=61f2 2f8b1=61f6 2f8b2=6210
2f8b3=621b 2f8b4=625d 2f8b5=62b1 2f8b6=62d4 2f8b7=6350 2f8b8=22b0c 2f8b9=633d 2f8ba=62fc
2f8bb=6368 2f8bc=6383 2f8bd=63e4 2f8be=22bf1 2f8bf=6422 2f8c0=63c5 2f8c1=63a9 2f8c2=3a2e
2f8c3=6469 2f8c4=647e 2f8c5=649d 2f8c6=6477 2f8c7=3a6c 2f8c8=654f 2f8c9=656c 2f8ca=2300a
2f8cb=65e3 2f8cc=66f8 2f8cd=6649 2f8ce=3b19 2f8cf=6691 2f8d0=3b08 2f8d1=3ae4 2f8d2=5192 2f8d3=5195
2f8d4=6700 2f8d5=669c 2f8d6=80ad 2f8d7=43d9 2f8d8=6717 2f8d9=671b 2f8da=6721 2f8db=675e 2f8dc=6753
2f8dd=233c3 2f8de=3b49 2f8df=67fa 2f8e0=6785 2f8e1=6852 2f8e2=6885 2f8e3=2346d 2f8e4=688e
2f8e5=681f 2f8e6=6914 2f8e7=3b9d 2f8e8=6942 2f8e9=69a3 2f8ea=69ea 2f8eb=6aa8 2f8ec=236a3
2f8ed=6adb 2f8ee=3c18 2f8ef=6b21 2f8f0=238a7 2f8f1=6b54 2f8f2=3c4e 2f8f3=6b72 2f8f4=6b9f
2f8f7=23a8d 2f8f8=21d0b 2f8f9=23afa 2f8fa=6c4e 2f8fb=23cbc 2f8fc=6cbf 2f8fd=6ccd 2f8fe=6c67
2f8ff=6d16 2f900=6d3e 2f901=6d77 2f902=6d41 2f903=6d69 2f904=6d78 2f905=6d85 2f906=23d1e
2f907=6d34 2f908=6e2f 2f909=6e6e 2f90a=3d33 2f90b=6ecb 2f90c=6ec7 2f90d=23ed1 2f90e=6df9
2f90f=6f6e 2f910=23f5e 2f911=23f8e 2f912=6fc6 2f913=7039 2f914=701e 2f915=701b 2f916=3d96
2f917=704a 2f918=707d 2f919=7077 2f91a=70ad 2f91b=20525 2f91c=7145 2f91d=24263 2f91e=719c
2f91f=243ab 2f920=7228 2f921=7235 2f922=7250 2f923=24608 2f924=7280 2f925=7295 2f926=24735
2f927=24814 2f928=737a 2f929=738b 2f92a=3eac 2f92b=73a5 2f92c=3eb8 2f92d=3eb8 2f92e=7447
2f92f=745c 2f930=7471 2f931=7485 2f932=74ca 2f933=3f1b 2f934=7524 2f935=24c36 2f936=753e
2f937=24c92 2f938=7570 2f939=2219f 2f93a=7610 2f93b=24fa1 2f93c=24fb8 2f93d=25044 2f93e=3ffc
2f93f=4008 2f940=76f4 2f941=250f3 2f942=250f2 2f943=25119 2f944=25133 2f947=771f 2f948=774a
2f949=4039 2f94a=778b 2f94b=4046 2f94c=4096 2f94d=2541d 2f94e=784e 2f94f=788c 2f950=78cc
2f951=40e3 2f952=25626 2f953=7956 2f954=2569a 2f955=256c5 2f956=798f 2f957=79eb 2f958=412f
2f959=7a40 2f95a=7a4a 2f95b=7a4f 2f95c=2597c 2f95d=25aa7 2f95e=25aa7 2f95f=7aee 2f960=4202
2f961=25bab 2f962=7bc6 2f963=7bc9 2f964=4227 2f965=25c80 2f966=7cd2 2f967=42a0 2f968=7ce8
2f969=7ce3 2f96a=7d00 2f96b=25f86 2f96c=7d63 2f96d=4301 2f96e=7dc7 2f96f=7e02 2f970=7e45
2f971=4334 2f972=26228 2f973=26247 2f974=4359 2f975=262d9 2f976=7f7a 2f977=2633e 2f978=7f95
2f979=7ffa 2f97a=8005 2f97b=264da 2f97c=26523 2f97d=8060 2f97e=265a8 2f97f=8070 2f980=2335f
2f981=43d5 2f982=80b2 2f983=8103 2f984=440b 2f985=813e 2f986=5ab5 2f987=267a7 2f988=267b5
2f989=23393 2f98a=2339c 2f98b=8201 2f98c=8204 2f98d=8f9e 2f98e=446b 2f98f=8291 2f990=828b
2f991=829d 2f992=52b3 2f993=82b1 2f994=82b3 2f995=82bd 2f996=82e6 2f997=26b3c 2f998=82e5
2f999=831d 2f99a=8363 2f99b=83ad 2f99c=8323 2f99d=83bd 2f99e=83e7 2f99f=8457 2f9a0=8353 2f9a1=83ca
2f9a2=83cc 2f9a3=83dc 2f9a4=26c36 2f9a5=26d6b 2f9a6=26cd5 2f9a7=452b 2f9a8=84f1 2f9a9=84f3
2f9aa=8516 2f9ab=273ca 2f9ac=8564 2f9ad=26f2c 2f9ae=455d 2f9af=4561 2f9b0=26fb1 2f9b1=270d2
2f9b2=456b 2f9b3=8650 2f9b4=865c 2f9b5=8667 2f9b6=8669 2f9b7=86a9 2f9b8=8688 2f9b9=870e 2f9ba=86e2
2f9bb=8779 2f9bc=8728 2f9bd=876b 2f9be=8786 2f9bf=45d7 2f9c0=87e1 2f9c1=8801 2f9c2=45f9 2f9c3=8860
2f9c4=8863 2f9c5=27667 2f9c6=88d7 2f9c7=88de 2f9c8=4635 2f9c9=88fa 2f9ca=34bb 2f9cb=278ae
2f9cc=27966 2f9cd=46be 2f9ce=46c7 2f9cf=8aa0 2f9d0=8aed 2f9d1=8b8a 2f9d2=8c55 2f9d3=27ca8
2f9d4=8cab 2f9d5=8cc1 2f9d6=8d1b 2f9d7=8d77 2f9d8=27f2f 2f9d9=20804 2f9da=8dcb 2f9db=8dbc
2f9dc=8df0 2f9dd=208de 2f9de=8ed4 2f9df=8f38 2f9e0=285d2 2f9e1=285ed 2f9e2=9094 2f9e3=90f1
2f9e4=9111 2f9e5=2872e 2f9e6=911b 2f9e7=9238 2f9ea=927c 2f9eb=93f9 2f9ec=9415 2f9ed=28bfa
2f9ee=958b 2f9ef=4995 2f9f0=95b7 2f9f1=28d77 2f9f2=49e6 2f9f3=96c3 2f9f4=5db2 2f9f5=9723
2f9f6=29145 2f9f7=2921a 2f9f8=4a6e 2f9f9=4a76 2f9fa=97e0 2f9fb=2940a 2f9fc=4ab2 2f9fd=29496
2f9fe=980b 2f9ff=980b 2fa00=9829 2fa01=295b6 2fa02=98e2 2fa03=4b33 2fa04=9929 2fa05=99a7
2fa06=99c2 2fa07=99fe 2fa08=4bce 2fa09=29b30 2fa0a=9b12 2fa0b=9c40 2fa0c=9cfd 2fa0d=4cce
2fa0e=4ced 2fa0f=9d67 2fa10=2a0ce 2fa11=4cf8 2fa12=2a105 2fa13=2a20e 2fa14=2a291 2fa15=9ebb
2fa16=4d56 2fa17=9ef9 2fa18=9efe 2fa19=9f05 2fa1a=9f0f 2fa1b=9f16 2fa1c=9f3b 2fa1d=2a600"

/-- A letter, a mark, and the character they make together, in hexadecimal digits. -/
def compositions : String :=
  "41,300=c0 41,301=c1 41,302=c2 41,303=c3 41,308=c4 41,30a=c5 43,327=c7 45,300=c8 45,301=c9
45,302=ca 45,308=cb 49,300=cc 49,301=cd 49,302=ce 49,308=cf 4e,303=d1 4f,300=d2 4f,301=d3
4f,302=d4 4f,303=d5 4f,308=d6 55,300=d9 55,301=da 55,302=db 55,308=dc 59,301=dd 61,300=e0
61,301=e1 61,302=e2 61,303=e3 61,308=e4 61,30a=e5 63,327=e7 65,300=e8 65,301=e9 65,302=ea
65,308=eb 69,300=ec 69,301=ed 69,302=ee 69,308=ef 6e,303=f1 6f,300=f2 6f,301=f3 6f,302=f4
6f,303=f5 6f,308=f6 75,300=f9 75,301=fa 75,302=fb 75,308=fc 79,301=fd 79,308=ff 41,304=100
61,304=101 41,306=102 61,306=103 41,328=104 61,328=105 43,301=106 63,301=107 43,302=108 63,302=109
43,307=10a 63,307=10b 43,30c=10c 63,30c=10d 44,30c=10e 64,30c=10f 45,304=112 65,304=113 45,306=114
65,306=115 45,307=116 65,307=117 45,328=118 65,328=119 45,30c=11a 65,30c=11b 47,302=11c 67,302=11d
47,306=11e 67,306=11f 47,307=120 67,307=121 47,327=122 67,327=123 48,302=124 68,302=125 49,303=128
69,303=129 49,304=12a 69,304=12b 49,306=12c 69,306=12d 49,328=12e 69,328=12f 49,307=130 4a,302=134
6a,302=135 4b,327=136 6b,327=137 4c,301=139 6c,301=13a 4c,327=13b 6c,327=13c 4c,30c=13d 6c,30c=13e
4e,301=143 6e,301=144 4e,327=145 6e,327=146 4e,30c=147 6e,30c=148 4f,304=14c 6f,304=14d 4f,306=14e
6f,306=14f 4f,30b=150 6f,30b=151 52,301=154 72,301=155 52,327=156 72,327=157 52,30c=158 72,30c=159
53,301=15a 73,301=15b 53,302=15c 73,302=15d 53,327=15e 73,327=15f 53,30c=160 73,30c=161 54,327=162
74,327=163 54,30c=164 74,30c=165 55,303=168 75,303=169 55,304=16a 75,304=16b 55,306=16c 75,306=16d
55,30a=16e 75,30a=16f 55,30b=170 75,30b=171 55,328=172 75,328=173 57,302=174 77,302=175 59,302=176
79,302=177 59,308=178 5a,301=179 7a,301=17a 5a,307=17b 7a,307=17c 5a,30c=17d 7a,30c=17e 4f,31b=1a0
6f,31b=1a1 55,31b=1af 75,31b=1b0 41,30c=1cd 61,30c=1ce 49,30c=1cf 69,30c=1d0 4f,30c=1d1 6f,30c=1d2
55,30c=1d3 75,30c=1d4 dc,304=1d5 fc,304=1d6 dc,301=1d7 fc,301=1d8 dc,30c=1d9 fc,30c=1da dc,300=1db
fc,300=1dc c4,304=1de e4,304=1df 226,304=1e0 227,304=1e1 c6,304=1e2 e6,304=1e3 47,30c=1e6
67,30c=1e7 4b,30c=1e8 6b,30c=1e9 4f,328=1ea 6f,328=1eb 1ea,304=1ec 1eb,304=1ed 1b7,30c=1ee
292,30c=1ef 6a,30c=1f0 47,301=1f4 67,301=1f5 4e,300=1f8 6e,300=1f9 c5,301=1fa e5,301=1fb
c6,301=1fc e6,301=1fd d8,301=1fe f8,301=1ff 41,30f=200 61,30f=201 41,311=202 61,311=203 45,30f=204
65,30f=205 45,311=206 65,311=207 49,30f=208 69,30f=209 49,311=20a 69,311=20b 4f,30f=20c 6f,30f=20d
4f,311=20e 6f,311=20f 52,30f=210 72,30f=211 52,311=212 72,311=213 55,30f=214 75,30f=215 55,311=216
75,311=217 53,326=218 73,326=219 54,326=21a 74,326=21b 48,30c=21e 68,30c=21f 41,307=226 61,307=227
45,327=228 65,327=229 d6,304=22a f6,304=22b d5,304=22c f5,304=22d 4f,307=22e 6f,307=22f
22e,304=230 22f,304=231 59,304=232 79,304=233 a8,301=385 391,301=386 395,301=388 397,301=389
399,301=38a 39f,301=38c 3a5,301=38e 3a9,301=38f 3ca,301=390 399,308=3aa 3a5,308=3ab 3b1,301=3ac
3b5,301=3ad 3b7,301=3ae 3b9,301=3af 3cb,301=3b0 3b9,308=3ca 3c5,308=3cb 3bf,301=3cc 3c5,301=3cd
3c9,301=3ce 3d2,301=3d3 3d2,308=3d4 415,300=400 415,308=401 413,301=403 406,308=407 41a,301=40c
418,300=40d 423,306=40e 418,306=419 438,306=439 435,300=450 435,308=451 433,301=453 456,308=457
43a,301=45c 438,300=45d 443,306=45e 474,30f=476 475,30f=477 416,306=4c1 436,306=4c2 410,306=4d0
430,306=4d1 410,308=4d2 430,308=4d3 415,306=4d6 435,306=4d7 4d8,308=4da 4d9,308=4db 416,308=4dc
436,308=4dd 417,308=4de 437,308=4df 418,304=4e2 438,304=4e3 418,308=4e4 438,308=4e5 41e,308=4e6
43e,308=4e7 4e8,308=4ea 4e9,308=4eb 42d,308=4ec 44d,308=4ed 423,304=4ee 443,304=4ef 423,308=4f0
443,308=4f1 423,30b=4f2 443,30b=4f3 427,308=4f4 447,308=4f5 42b,308=4f8 44b,308=4f9 627,653=622
627,654=623 648,654=624 627,655=625 64a,654=626 6d5,654=6c0 6c1,654=6c2 6d2,654=6d3 928,93c=929
930,93c=931 933,93c=934 9c7,9be=9cb 9c7,9d7=9cc b47,b56=b48 b47,b3e=b4b b47,b57=b4c b92,bd7=b94
bc6,bbe=bca bc7,bbe=bcb bc6,bd7=bcc c46,c56=c48 cbf,cd5=cc0 cc6,cd5=cc7 cc6,cd6=cc8 cc6,cc2=cca
cca,cd5=ccb d46,d3e=d4a d47,d3e=d4b d46,d57=d4c dd9,dca=dda dd9,dcf=ddc ddc,dca=ddd dd9,ddf=dde
1025,102e=1026 1b05,1b35=1b06 1b07,1b35=1b08 1b09,1b35=1b0a 1b0b,1b35=1b0c 1b0d,1b35=1b0e
1b11,1b35=1b12 1b3a,1b35=1b3b 1b3c,1b35=1b3d 1b3e,1b35=1b40 1b3f,1b35=1b41 1b42,1b35=1b43
41,325=1e00 61,325=1e01 42,307=1e02 62,307=1e03 42,323=1e04 62,323=1e05 42,331=1e06 62,331=1e07
c7,301=1e08 e7,301=1e09 44,307=1e0a 64,307=1e0b 44,323=1e0c 64,323=1e0d 44,331=1e0e 64,331=1e0f
44,327=1e10 64,327=1e11 44,32d=1e12 64,32d=1e13 112,300=1e14 113,300=1e15 112,301=1e16
113,301=1e17 45,32d=1e18 65,32d=1e19 45,330=1e1a 65,330=1e1b 228,306=1e1c 229,306=1e1d 46,307=1e1e
66,307=1e1f 47,304=1e20 67,304=1e21 48,307=1e22 68,307=1e23 48,323=1e24 68,323=1e25 48,308=1e26
68,308=1e27 48,327=1e28 68,327=1e29 48,32e=1e2a 68,32e=1e2b 49,330=1e2c 69,330=1e2d cf,301=1e2e
ef,301=1e2f 4b,301=1e30 6b,301=1e31 4b,323=1e32 6b,323=1e33 4b,331=1e34 6b,331=1e35 4c,323=1e36
6c,323=1e37 1e36,304=1e38 1e37,304=1e39 4c,331=1e3a 6c,331=1e3b 4c,32d=1e3c 6c,32d=1e3d
4d,301=1e3e 6d,301=1e3f 4d,307=1e40 6d,307=1e41 4d,323=1e42 6d,323=1e43 4e,307=1e44 6e,307=1e45
4e,323=1e46 6e,323=1e47 4e,331=1e48 6e,331=1e49 4e,32d=1e4a 6e,32d=1e4b d5,301=1e4c f5,301=1e4d
d5,308=1e4e f5,308=1e4f 14c,300=1e50 14d,300=1e51 14c,301=1e52 14d,301=1e53 50,301=1e54
70,301=1e55 50,307=1e56 70,307=1e57 52,307=1e58 72,307=1e59 52,323=1e5a 72,323=1e5b 1e5a,304=1e5c
1e5b,304=1e5d 52,331=1e5e 72,331=1e5f 53,307=1e60 73,307=1e61 53,323=1e62 73,323=1e63 15a,307=1e64
15b,307=1e65 160,307=1e66 161,307=1e67 1e62,307=1e68 1e63,307=1e69 54,307=1e6a 74,307=1e6b
54,323=1e6c 74,323=1e6d 54,331=1e6e 74,331=1e6f 54,32d=1e70 74,32d=1e71 55,324=1e72 75,324=1e73
55,330=1e74 75,330=1e75 55,32d=1e76 75,32d=1e77 168,301=1e78 169,301=1e79 16a,308=1e7a
16b,308=1e7b 56,303=1e7c 76,303=1e7d 56,323=1e7e 76,323=1e7f 57,300=1e80 77,300=1e81 57,301=1e82
77,301=1e83 57,308=1e84 77,308=1e85 57,307=1e86 77,307=1e87 57,323=1e88 77,323=1e89 58,307=1e8a
78,307=1e8b 58,308=1e8c 78,308=1e8d 59,307=1e8e 79,307=1e8f 5a,302=1e90 7a,302=1e91 5a,323=1e92
7a,323=1e93 5a,331=1e94 7a,331=1e95 68,331=1e96 74,308=1e97 77,30a=1e98 79,30a=1e99 17f,307=1e9b
41,323=1ea0 61,323=1ea1 41,309=1ea2 61,309=1ea3 c2,301=1ea4 e2,301=1ea5 c2,300=1ea6 e2,300=1ea7
c2,309=1ea8 e2,309=1ea9 c2,303=1eaa e2,303=1eab 1ea0,302=1eac 1ea1,302=1ead 102,301=1eae
103,301=1eaf 102,300=1eb0 103,300=1eb1 102,309=1eb2 103,309=1eb3 102,303=1eb4 103,303=1eb5
1ea0,306=1eb6 1ea1,306=1eb7 45,323=1eb8 65,323=1eb9 45,309=1eba 65,309=1ebb 45,303=1ebc
65,303=1ebd ca,301=1ebe ea,301=1ebf ca,300=1ec0 ea,300=1ec1 ca,309=1ec2 ea,309=1ec3 ca,303=1ec4
ea,303=1ec5 1eb8,302=1ec6 1eb9,302=1ec7 49,309=1ec8 69,309=1ec9 49,323=1eca 69,323=1ecb
4f,323=1ecc 6f,323=1ecd 4f,309=1ece 6f,309=1ecf d4,301=1ed0 f4,301=1ed1 d4,300=1ed2 f4,300=1ed3
d4,309=1ed4 f4,309=1ed5 d4,303=1ed6 f4,303=1ed7 1ecc,302=1ed8 1ecd,302=1ed9 1a0,301=1eda
1a1,301=1edb 1a0,300=1edc 1a1,300=1edd 1a0,309=1ede 1a1,309=1edf 1a0,303=1ee0 1a1,303=1ee1
1a0,323=1ee2 1a1,323=1ee3 55,323=1ee4 75,323=1ee5 55,309=1ee6 75,309=1ee7 1af,301=1ee8
1b0,301=1ee9 1af,300=1eea 1b0,300=1eeb 1af,309=1eec 1b0,309=1eed 1af,303=1eee 1b0,303=1eef
1af,323=1ef0 1b0,323=1ef1 59,300=1ef2 79,300=1ef3 59,323=1ef4 79,323=1ef5 59,309=1ef6 79,309=1ef7
59,303=1ef8 79,303=1ef9 3b1,313=1f00 3b1,314=1f01 1f00,300=1f02 1f01,300=1f03 1f00,301=1f04
1f01,301=1f05 1f00,342=1f06 1f01,342=1f07 391,313=1f08 391,314=1f09 1f08,300=1f0a 1f09,300=1f0b
1f08,301=1f0c 1f09,301=1f0d 1f08,342=1f0e 1f09,342=1f0f 3b5,313=1f10 3b5,314=1f11 1f10,300=1f12
1f11,300=1f13 1f10,301=1f14 1f11,301=1f15 395,313=1f18 395,314=1f19 1f18,300=1f1a 1f19,300=1f1b
1f18,301=1f1c 1f19,301=1f1d 3b7,313=1f20 3b7,314=1f21 1f20,300=1f22 1f21,300=1f23 1f20,301=1f24
1f21,301=1f25 1f20,342=1f26 1f21,342=1f27 397,313=1f28 397,314=1f29 1f28,300=1f2a 1f29,300=1f2b
1f28,301=1f2c 1f29,301=1f2d 1f28,342=1f2e 1f29,342=1f2f 3b9,313=1f30 3b9,314=1f31 1f30,300=1f32
1f31,300=1f33 1f30,301=1f34 1f31,301=1f35 1f30,342=1f36 1f31,342=1f37 399,313=1f38 399,314=1f39
1f38,300=1f3a 1f39,300=1f3b 1f38,301=1f3c 1f39,301=1f3d 1f38,342=1f3e 1f39,342=1f3f 3bf,313=1f40
3bf,314=1f41 1f40,300=1f42 1f41,300=1f43 1f40,301=1f44 1f41,301=1f45 39f,313=1f48 39f,314=1f49
1f48,300=1f4a 1f49,300=1f4b 1f48,301=1f4c 1f49,301=1f4d 3c5,313=1f50 3c5,314=1f51 1f50,300=1f52
1f51,300=1f53 1f50,301=1f54 1f51,301=1f55 1f50,342=1f56 1f51,342=1f57 3a5,314=1f59 1f59,300=1f5b
1f59,301=1f5d 1f59,342=1f5f 3c9,313=1f60 3c9,314=1f61 1f60,300=1f62 1f61,300=1f63 1f60,301=1f64
1f61,301=1f65 1f60,342=1f66 1f61,342=1f67 3a9,313=1f68 3a9,314=1f69 1f68,300=1f6a 1f69,300=1f6b
1f68,301=1f6c 1f69,301=1f6d 1f68,342=1f6e 1f69,342=1f6f 3b1,300=1f70 3b5,300=1f72 3b7,300=1f74
3b9,300=1f76 3bf,300=1f78 3c5,300=1f7a 3c9,300=1f7c 1f00,345=1f80 1f01,345=1f81 1f02,345=1f82
1f03,345=1f83 1f04,345=1f84 1f05,345=1f85 1f06,345=1f86 1f07,345=1f87 1f08,345=1f88 1f09,345=1f89
1f0a,345=1f8a 1f0b,345=1f8b 1f0c,345=1f8c 1f0d,345=1f8d 1f0e,345=1f8e 1f0f,345=1f8f 1f20,345=1f90
1f21,345=1f91 1f22,345=1f92 1f23,345=1f93 1f24,345=1f94 1f25,345=1f95 1f26,345=1f96 1f27,345=1f97
1f28,345=1f98 1f29,345=1f99 1f2a,345=1f9a 1f2b,345=1f9b 1f2c,345=1f9c 1f2d,345=1f9d 1f2e,345=1f9e
1f2f,345=1f9f 1f60,345=1fa0 1f61,345=1fa1 1f62,345=1fa2 1f63,345=1fa3 1f64,345=1fa4 1f65,345=1fa5
1f66,345=1fa6 1f67,345=1fa7 1f68,345=1fa8 1f69,345=1fa9 1f6a,345=1faa 1f6b,345=1fab 1f6c,345=1fac
1f6d,345=1fad 1f6e,345=1fae 1f6f,345=1faf 3b1,306=1fb0 3b1,304=1fb1 1f70,345=1fb2 3b1,345=1fb3
3ac,345=1fb4 3b1,342=1fb6 1fb6,345=1fb7 391,306=1fb8 391,304=1fb9 391,300=1fba 391,345=1fbc
a8,342=1fc1 1f74,345=1fc2 3b7,345=1fc3 3ae,345=1fc4 3b7,342=1fc6 1fc6,345=1fc7 395,300=1fc8
397,300=1fca 397,345=1fcc 1fbf,300=1fcd 1fbf,301=1fce 1fbf,342=1fcf 3b9,306=1fd0 3b9,304=1fd1
3ca,300=1fd2 3b9,342=1fd6 3ca,342=1fd7 399,306=1fd8 399,304=1fd9 399,300=1fda 1ffe,300=1fdd
1ffe,301=1fde 1ffe,342=1fdf 3c5,306=1fe0 3c5,304=1fe1 3cb,300=1fe2 3c1,313=1fe4 3c1,314=1fe5
3c5,342=1fe6 3cb,342=1fe7 3a5,306=1fe8 3a5,304=1fe9 3a5,300=1fea 3a1,314=1fec a8,300=1fed
1f7c,345=1ff2 3c9,345=1ff3 3ce,345=1ff4 3c9,342=1ff6 1ff6,345=1ff7 39f,300=1ff8 3a9,300=1ffa
3a9,345=1ffc 2190,338=219a 2192,338=219b 2194,338=21ae 21d0,338=21cd 21d4,338=21ce 21d2,338=21cf
2203,338=2204 2208,338=2209 220b,338=220c 2223,338=2224 2225,338=2226 223c,338=2241 2243,338=2244
2245,338=2247 2248,338=2249 3d,338=2260 2261,338=2262 224d,338=226d 3c,338=226e 3e,338=226f
2264,338=2270 2265,338=2271 2272,338=2274 2273,338=2275 2276,338=2278 2277,338=2279 227a,338=2280
227b,338=2281 2282,338=2284 2283,338=2285 2286,338=2288 2287,338=2289 22a2,338=22ac 22a8,338=22ad
22a9,338=22ae 22ab,338=22af 227c,338=22e0 227d,338=22e1 2291,338=22e2 2292,338=22e3 22b2,338=22ea
22b3,338=22eb 22b4,338=22ec 22b5,338=22ed 304b,3099=304c 304d,3099=304e 304f,3099=3050
3051,3099=3052 3053,3099=3054 3055,3099=3056 3057,3099=3058 3059,3099=305a 305b,3099=305c
305d,3099=305e 305f,3099=3060 3061,3099=3062 3064,3099=3065 3066,3099=3067 3068,3099=3069
306f,3099=3070 306f,309a=3071 3072,3099=3073 3072,309a=3074 3075,3099=3076 3075,309a=3077
3078,3099=3079 3078,309a=307a 307b,3099=307c 307b,309a=307d 3046,3099=3094 309d,3099=309e
30ab,3099=30ac 30ad,3099=30ae 30af,3099=30b0 30b1,3099=30b2 30b3,3099=30b4 30b5,3099=30b6
30b7,3099=30b8 30b9,3099=30ba 30bb,3099=30bc 30bd,3099=30be 30bf,3099=30c0 30c1,3099=30c2
30c4,3099=30c5 30c6,3099=30c7 30c8,3099=30c9 30cf,3099=30d0 30cf,309a=30d1 30d2,3099=30d3
30d2,309a=30d4 30d5,3099=30d6 30d5,309a=30d7 30d8,3099=30d9 30d8,309a=30da 30db,3099=30dc
30db,309a=30dd 30a6,3099=30f4 30ef,3099=30f7 30f0,3099=30f8 30f1,3099=30f9 30f2,3099=30fa
30fd,3099=30fe 11099,110ba=1109a 1109b,110ba=1109c 110a5,110ba=110ab 11131,11127=1112e
11132,11127=1112f 11347,1133e=1134b 11347,11357=1134c 114b9,114ba=114bb 114b9,114b0=114bc
114b9,114bd=114be 115b8,115af=115ba 115b9,115af=115bb 11935,11930=11938"

/-- Runs of marks, `(first, last, order)`: marks of a lower order come first. -/
def markRuns : Array (Nat × Nat × Nat) :=
  #[
    (0x300, 0x314, 230), (0x315, 0x315, 232), (0x316, 0x319, 220), (0x31a, 0x31a, 232),
    (0x31b, 0x31b, 216), (0x31c, 0x320, 220), (0x321, 0x322, 202), (0x323, 0x326, 220),
    (0x327, 0x328, 202), (0x329, 0x333, 220), (0x334, 0x338, 1), (0x339, 0x33c, 220),
    (0x33d, 0x344, 230), (0x345, 0x345, 240), (0x346, 0x346, 230), (0x347, 0x349, 220),
    (0x34a, 0x34c, 230), (0x34d, 0x34e, 220), (0x350, 0x352, 230), (0x353, 0x356, 220),
    (0x357, 0x357, 230), (0x358, 0x358, 232), (0x359, 0x35a, 220), (0x35b, 0x35b, 230),
    (0x35c, 0x35c, 233), (0x35d, 0x35e, 234), (0x35f, 0x35f, 233), (0x360, 0x361, 234),
    (0x362, 0x362, 233), (0x363, 0x36f, 230), (0x483, 0x487, 230), (0x591, 0x591, 220),
    (0x592, 0x595, 230), (0x596, 0x596, 220), (0x597, 0x599, 230), (0x59a, 0x59a, 222),
    (0x59b, 0x59b, 220), (0x59c, 0x5a1, 230), (0x5a2, 0x5a7, 220), (0x5a8, 0x5a9, 230),
    (0x5aa, 0x5aa, 220), (0x5ab, 0x5ac, 230), (0x5ad, 0x5ad, 222), (0x5ae, 0x5ae, 228),
    (0x5af, 0x5af, 230), (0x5b0, 0x5b0, 10), (0x5b1, 0x5b1, 11), (0x5b2, 0x5b2, 12),
    (0x5b3, 0x5b3, 13), (0x5b4, 0x5b4, 14), (0x5b5, 0x5b5, 15), (0x5b6, 0x5b6, 16),
    (0x5b7, 0x5b7, 17), (0x5b8, 0x5b8, 18), (0x5b9, 0x5ba, 19), (0x5bb, 0x5bb, 20),
    (0x5bc, 0x5bc, 21), (0x5bd, 0x5bd, 22), (0x5bf, 0x5bf, 23), (0x5c1, 0x5c1, 24),
    (0x5c2, 0x5c2, 25), (0x5c4, 0x5c4, 230), (0x5c5, 0x5c5, 220), (0x5c7, 0x5c7, 18),
    (0x610, 0x617, 230), (0x618, 0x618, 30), (0x619, 0x619, 31), (0x61a, 0x61a, 32),
    (0x64b, 0x64b, 27), (0x64c, 0x64c, 28), (0x64d, 0x64d, 29), (0x64e, 0x64e, 30),
    (0x64f, 0x64f, 31), (0x650, 0x650, 32), (0x651, 0x651, 33), (0x652, 0x652, 34),
    (0x653, 0x654, 230), (0x655, 0x656, 220), (0x657, 0x65b, 230), (0x65c, 0x65c, 220),
    (0x65d, 0x65e, 230), (0x65f, 0x65f, 220), (0x670, 0x670, 35), (0x6d6, 0x6dc, 230),
    (0x6df, 0x6e2, 230), (0x6e3, 0x6e3, 220), (0x6e4, 0x6e4, 230), (0x6e7, 0x6e8, 230),
    (0x6ea, 0x6ea, 220), (0x6eb, 0x6ec, 230), (0x6ed, 0x6ed, 220), (0x711, 0x711, 36),
    (0x730, 0x730, 230), (0x731, 0x731, 220), (0x732, 0x733, 230), (0x734, 0x734, 220),
    (0x735, 0x736, 230), (0x737, 0x739, 220), (0x73a, 0x73a, 230), (0x73b, 0x73c, 220),
    (0x73d, 0x73d, 230), (0x73e, 0x73e, 220), (0x73f, 0x741, 230), (0x742, 0x742, 220),
    (0x743, 0x743, 230), (0x744, 0x744, 220), (0x745, 0x745, 230), (0x746, 0x746, 220),
    (0x747, 0x747, 230), (0x748, 0x748, 220), (0x749, 0x74a, 230), (0x7eb, 0x7f1, 230),
    (0x7f2, 0x7f2, 220), (0x7f3, 0x7f3, 230), (0x7fd, 0x7fd, 220), (0x816, 0x819, 230),
    (0x81b, 0x823, 230), (0x825, 0x827, 230), (0x829, 0x82d, 230), (0x859, 0x85b, 220),
    (0x898, 0x898, 230), (0x899, 0x89b, 220), (0x89c, 0x89f, 230), (0x8ca, 0x8ce, 230),
    (0x8cf, 0x8d3, 220), (0x8d4, 0x8e1, 230), (0x8e3, 0x8e3, 220), (0x8e4, 0x8e5, 230),
    (0x8e6, 0x8e6, 220), (0x8e7, 0x8e8, 230), (0x8e9, 0x8e9, 220), (0x8ea, 0x8ec, 230),
    (0x8ed, 0x8ef, 220), (0x8f0, 0x8f0, 27), (0x8f1, 0x8f1, 28), (0x8f2, 0x8f2, 29),
    (0x8f3, 0x8f5, 230), (0x8f6, 0x8f6, 220), (0x8f7, 0x8f8, 230), (0x8f9, 0x8fa, 220),
    (0x8fb, 0x8ff, 230), (0x93c, 0x93c, 7), (0x94d, 0x94d, 9), (0x951, 0x951, 230),
    (0x952, 0x952, 220), (0x953, 0x954, 230), (0x9bc, 0x9bc, 7), (0x9cd, 0x9cd, 9),
    (0x9fe, 0x9fe, 230), (0xa3c, 0xa3c, 7), (0xa4d, 0xa4d, 9), (0xabc, 0xabc, 7),
    (0xacd, 0xacd, 9), (0xb3c, 0xb3c, 7), (0xb4d, 0xb4d, 9), (0xbcd, 0xbcd, 9), (0xc3c, 0xc3c, 7),
    (0xc4d, 0xc4d, 9), (0xc55, 0xc55, 84), (0xc56, 0xc56, 91), (0xcbc, 0xcbc, 7),
    (0xccd, 0xccd, 9), (0xd3b, 0xd3c, 9), (0xd4d, 0xd4d, 9), (0xdca, 0xdca, 9),
    (0xe38, 0xe39, 103), (0xe3a, 0xe3a, 9), (0xe48, 0xe4b, 107), (0xeb8, 0xeb9, 118),
    (0xeba, 0xeba, 9), (0xec8, 0xecb, 122), (0xf18, 0xf19, 220), (0xf35, 0xf35, 220),
    (0xf37, 0xf37, 220), (0xf39, 0xf39, 216), (0xf71, 0xf71, 129), (0xf72, 0xf72, 130),
    (0xf74, 0xf74, 132), (0xf7a, 0xf7d, 130), (0xf80, 0xf80, 130), (0xf82, 0xf83, 230),
    (0xf84, 0xf84, 9), (0xf86, 0xf87, 230), (0xfc6, 0xfc6, 220), (0x1037, 0x1037, 7),
    (0x1039, 0x103a, 9), (0x108d, 0x108d, 220), (0x135d, 0x135f, 230), (0x1714, 0x1715, 9),
    (0x1734, 0x1734, 9), (0x17d2, 0x17d2, 9), (0x17dd, 0x17dd, 230), (0x18a9, 0x18a9, 228),
    (0x1939, 0x1939, 222), (0x193a, 0x193a, 230), (0x193b, 0x193b, 220), (0x1a17, 0x1a17, 230),
    (0x1a18, 0x1a18, 220), (0x1a60, 0x1a60, 9), (0x1a75, 0x1a7c, 230), (0x1a7f, 0x1a7f, 220),
    (0x1ab0, 0x1ab4, 230), (0x1ab5, 0x1aba, 220), (0x1abb, 0x1abc, 230), (0x1abd, 0x1abd, 220),
    (0x1abf, 0x1ac0, 220), (0x1ac1, 0x1ac2, 230), (0x1ac3, 0x1ac4, 220), (0x1ac5, 0x1ac9, 230),
    (0x1aca, 0x1aca, 220), (0x1acb, 0x1ace, 230), (0x1b34, 0x1b34, 7), (0x1b44, 0x1b44, 9),
    (0x1b6b, 0x1b6b, 230), (0x1b6c, 0x1b6c, 220), (0x1b6d, 0x1b73, 230), (0x1baa, 0x1bab, 9),
    (0x1be6, 0x1be6, 7), (0x1bf2, 0x1bf3, 9), (0x1c37, 0x1c37, 7), (0x1cd0, 0x1cd2, 230),
    (0x1cd4, 0x1cd4, 1), (0x1cd5, 0x1cd9, 220), (0x1cda, 0x1cdb, 230), (0x1cdc, 0x1cdf, 220),
    (0x1ce0, 0x1ce0, 230), (0x1ce2, 0x1ce8, 1), (0x1ced, 0x1ced, 220), (0x1cf4, 0x1cf4, 230),
    (0x1cf8, 0x1cf9, 230), (0x1dc0, 0x1dc1, 230), (0x1dc2, 0x1dc2, 220), (0x1dc3, 0x1dc9, 230),
    (0x1dca, 0x1dca, 220), (0x1dcb, 0x1dcc, 230), (0x1dcd, 0x1dcd, 234), (0x1dce, 0x1dce, 214),
    (0x1dcf, 0x1dcf, 220), (0x1dd0, 0x1dd0, 202), (0x1dd1, 0x1df5, 230), (0x1df6, 0x1df6, 232),
    (0x1df7, 0x1df8, 228), (0x1df9, 0x1df9, 220), (0x1dfa, 0x1dfa, 218), (0x1dfb, 0x1dfb, 230),
    (0x1dfc, 0x1dfc, 233), (0x1dfd, 0x1dfd, 220), (0x1dfe, 0x1dfe, 230), (0x1dff, 0x1dff, 220),
    (0x20d0, 0x20d1, 230), (0x20d2, 0x20d3, 1), (0x20d4, 0x20d7, 230), (0x20d8, 0x20da, 1),
    (0x20db, 0x20dc, 230), (0x20e1, 0x20e1, 230), (0x20e5, 0x20e6, 1), (0x20e7, 0x20e7, 230),
    (0x20e8, 0x20e8, 220), (0x20e9, 0x20e9, 230), (0x20ea, 0x20eb, 1), (0x20ec, 0x20ef, 220),
    (0x20f0, 0x20f0, 230), (0x2cef, 0x2cf1, 230), (0x2d7f, 0x2d7f, 9), (0x2de0, 0x2dff, 230),
    (0x302a, 0x302a, 218), (0x302b, 0x302b, 228), (0x302c, 0x302c, 232), (0x302d, 0x302d, 222),
    (0x302e, 0x302f, 224), (0x3099, 0x309a, 8), (0xa66f, 0xa66f, 230), (0xa674, 0xa67d, 230),
    (0xa69e, 0xa69f, 230), (0xa6f0, 0xa6f1, 230), (0xa806, 0xa806, 9), (0xa82c, 0xa82c, 9),
    (0xa8c4, 0xa8c4, 9), (0xa8e0, 0xa8f1, 230), (0xa92b, 0xa92d, 220), (0xa953, 0xa953, 9),
    (0xa9b3, 0xa9b3, 7), (0xa9c0, 0xa9c0, 9), (0xaab0, 0xaab0, 230), (0xaab2, 0xaab3, 230),
    (0xaab4, 0xaab4, 220), (0xaab7, 0xaab8, 230), (0xaabe, 0xaabf, 230), (0xaac1, 0xaac1, 230),
    (0xaaf6, 0xaaf6, 9), (0xabed, 0xabed, 9), (0xfb1e, 0xfb1e, 26), (0xfe20, 0xfe26, 230),
    (0xfe27, 0xfe2d, 220), (0xfe2e, 0xfe2f, 230), (0x101fd, 0x101fd, 220),
    (0x102e0, 0x102e0, 220), (0x10376, 0x1037a, 230), (0x10a0d, 0x10a0d, 220),
    (0x10a0f, 0x10a0f, 230), (0x10a38, 0x10a38, 230), (0x10a39, 0x10a39, 1),
    (0x10a3a, 0x10a3a, 220), (0x10a3f, 0x10a3f, 9), (0x10ae5, 0x10ae5, 230),
    (0x10ae6, 0x10ae6, 220), (0x10d24, 0x10d27, 230), (0x10eab, 0x10eac, 230),
    (0x10f46, 0x10f47, 220), (0x10f48, 0x10f4a, 230), (0x10f4b, 0x10f4b, 220),
    (0x10f4c, 0x10f4c, 230), (0x10f4d, 0x10f50, 220), (0x10f82, 0x10f82, 230),
    (0x10f83, 0x10f83, 220), (0x10f84, 0x10f84, 230), (0x10f85, 0x10f85, 220),
    (0x11046, 0x11046, 9), (0x11070, 0x11070, 9), (0x1107f, 0x1107f, 9), (0x110b9, 0x110b9, 9),
    (0x110ba, 0x110ba, 7), (0x11100, 0x11102, 230), (0x11133, 0x11134, 9), (0x11173, 0x11173, 7),
    (0x111c0, 0x111c0, 9), (0x111ca, 0x111ca, 7), (0x11235, 0x11235, 9), (0x11236, 0x11236, 7),
    (0x112e9, 0x112e9, 7), (0x112ea, 0x112ea, 9), (0x1133b, 0x1133c, 7), (0x1134d, 0x1134d, 9),
    (0x11366, 0x1136c, 230), (0x11370, 0x11374, 230), (0x11442, 0x11442, 9),
    (0x11446, 0x11446, 7), (0x1145e, 0x1145e, 230), (0x114c2, 0x114c2, 9), (0x114c3, 0x114c3, 7),
    (0x115bf, 0x115bf, 9), (0x115c0, 0x115c0, 7), (0x1163f, 0x1163f, 9), (0x116b6, 0x116b6, 9),
    (0x116b7, 0x116b7, 7), (0x1172b, 0x1172b, 9), (0x11839, 0x11839, 9), (0x1183a, 0x1183a, 7),
    (0x1193d, 0x1193e, 9), (0x11943, 0x11943, 7), (0x119e0, 0x119e0, 9), (0x11a34, 0x11a34, 9),
    (0x11a47, 0x11a47, 9), (0x11a99, 0x11a99, 9), (0x11c3f, 0x11c3f, 9), (0x11d42, 0x11d42, 7),
    (0x11d44, 0x11d45, 9), (0x11d97, 0x11d97, 9), (0x16af0, 0x16af4, 1), (0x16b30, 0x16b36, 230),
    (0x16ff0, 0x16ff1, 6), (0x1bc9e, 0x1bc9e, 1), (0x1d165, 0x1d166, 216), (0x1d167, 0x1d169, 1),
    (0x1d16d, 0x1d16d, 226), (0x1d16e, 0x1d172, 216), (0x1d17b, 0x1d182, 220),
    (0x1d185, 0x1d189, 230), (0x1d18a, 0x1d18b, 220), (0x1d1aa, 0x1d1ad, 230),
    (0x1d242, 0x1d244, 230), (0x1e000, 0x1e006, 230), (0x1e008, 0x1e018, 230),
    (0x1e01b, 0x1e021, 230), (0x1e023, 0x1e024, 230), (0x1e026, 0x1e02a, 230),
    (0x1e130, 0x1e136, 230), (0x1e2ae, 0x1e2ae, 230), (0x1e2ec, 0x1e2ef, 230),
    (0x1e8d0, 0x1e8d6, 220), (0x1e944, 0x1e949, 230), (0x1e94a, 0x1e94a, 7)]

end Table

end Text

end Workflow
