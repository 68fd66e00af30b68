import ContractScan.Text.NameRun

/-! # Names: historic scripts

Names from the Linear B syllables up to the Tamil fractions.
-/

set_option maxRecDepth 4000

namespace ContractScan.Text

def historicNames : List NameRun := [
    ⟨0x10000, "LINEAR B SYLLABLE ", "B008 A;B038 E;B028 I;B061 O;B010 U;B001 DA;B045 DE;B007 DI;
      B014 DO;B051 DU;B057 JA;B046 JE"⟩, ⟨0x1000D, "LINEAR B SYLLABLE ", "B036 JO;B065 JU;B077 KA;
      B044 KE;B067 KI;B070 KO;B081 KU;B080 MA;B013 ME;B073 MI;B015 MO;B023 MU;B006 NA;B024 NE;
      B030 NI;B052 NO;B055 NU;B003 PA;B072 PE;B039 PI;B011 PO;B050 PU;B016 QA;B078 QE;B021 QI;
      B032 QO"⟩, ⟨0x10028, "LINEAR B SYLLABLE ", "B060 RA;B027 RE;B053 RI;B002 RO;B026 RU;B031 SA;
      B009 SE;B041 SI;B012 SO;B058 SU;B059 TA;B004 TE;B037 TI;B005 TO;B069 TU;B054 WA;B075 WE;
      B040 WI;B042 WO"⟩, ⟨0x1003C, "LINEAR B SYLLABLE ", "B017 ZA;B074 ZE"⟩,
    ⟨0x1003F, "LINEAR B SYLLABLE ", "B020 ZO;B025 A2;B043 A3;B085 AU;B071 DWE;B090 DWO;B048 NWA;
      B029 PU2;B062 PTE;B076 RA2;B033 RA3;B068 RO2;B066 TA2;B087 TWE;B091 TWO"⟩,
    ⟨0x10050, "LINEAR B SYMBOL ", "B018;B019;B022;B034;B047;B049;B056;B063;B064;B079;B082;B083;B086;
      B089"⟩, ⟨0x10080, "LINEAR B IDEOGRAM ", "B100 MAN;B102 WOMAN;B104 DEER;B105 EQUID;B105F MARE;
      B105M STALLION;B106F EWE;B106M RAM;B107F SHE-GOAT;B107M HE-GOAT;B108F SOW;B108M BOAR;
      B109F COW;B109M BULL;B120 WHEAT;B121 BARLEY;B122 OLIVE;B123 SPICE;B125 CYPERUS"⟩,
    ⟨0x10093, "LINEAR B ", "MONOGRAM B127 KAPO;MONOGRAM B128 KANAKO;IDEOGRAM B130 OIL;
      IDEOGRAM B131 WINE;IDEOGRAM B132;MONOGRAM B133 AREPA;MONOGRAM B135 MERI"⟩,
    ⟨0x1009A, "LINEAR B IDEOGRAM ", "B140 BRONZE;B141 GOLD;B142;B145 WOOL;B146;B150;B151 HORN;B152;
      B153;B154"⟩, ⟨0x100A4, "", "LINEAR B MONOGRAM B156 TURO2"⟩,
    ⟨0x100A5, "LINEAR B IDEOGRAM ", "B157;B158;B159 CLOTH;B160;B161;B162 GARMENT;B163 ARMOUR;B164;
      B165;B166;B167;B168;B169;B170;B171;B172;B173 MONTH;B174;B176 TREE;B177;B178;B179;B180;B181;
      B182;B183;B184;B185;B189;B190;B191 HELMET;B220 FOOTSTOOL;B225 BATHTUB;B230 SPEAR;B231 ARROW;
      B232;B233 SWORD;B234;B236;B240 WHEELED CHARIOT;B241 CHARIOT;B242 CHARIOT FRAME;B243 WHEEL;
      B245;B246"⟩, ⟨0x100D2, "", "LINEAR B MONOGRAM B247 DIPTE"⟩,
    ⟨0x100D3, "LINEAR B IDEOGRAM ", "B248;B249;B251;B252;B253;B254 DART;B255;B256;B257;B258;B259"⟩,
    ⟨0x100DE, "LINEAR B IDEOGRAM VESSEL ", "B155;B200;B201;B202;B203;B204;B205;B206;B207;B208;B209;
      B210;B211;B212;B213;B214;B215;B216;B217;B218;B219;B221;B222;B226;B227;B228;B229;B250;B305"⟩,
    ⟨0x10100, "AEGEAN ", "WORD SEPARATOR LINE;WORD SEPARATOR DOT;CHECK MARK"⟩,
    ⟨0x10107, "AEGEAN NUMBER ", "ONE;TWO;THREE;FOUR;FIVE;SIX;SEVEN;EIGHT;NINE;TEN;TWENTY;THIRTY;
      FORTY;FIFTY;SIXTY;SEVENTY;EIGHTY;NINETY;ONE HUNDRED;TWO HUNDRED;THREE HUNDRED;FOUR HUNDRED;
      FIVE HUNDRED;SIX HUNDRED;SEVEN HUNDRED;EIGHT HUNDRED;NINE HUNDRED;ONE THOUSAND;TWO THOUSAND;
      THREE THOUSAND;FOUR THOUSAND;FIVE THOUSAND;SIX THOUSAND;SEVEN THOUSAND;EIGHT THOUSAND;
      NINE THOUSAND;TEN THOUSAND;TWENTY THOUSAND;THIRTY THOUSAND;FORTY THOUSAND;FIFTY THOUSAND;
      SIXTY THOUSAND;SEVENTY THOUSAND;EIGHTY THOUSAND;NINETY THOUSAND"⟩,
    ⟨0x10137, "AEGEAN WEIGHT ", "BASE UNIT;FIRST SUBUNIT;SECOND SUBUNIT;THIRD SUBUNIT;
      FOURTH SUBUNIT"⟩, ⟨0x1013C, "AEGEAN ", "DRY MEASURE FIRST SUBUNIT;
      LIQUID MEASURE FIRST SUBUNIT;MEASURE SECOND SUBUNIT;MEASURE THIRD SUBUNIT"⟩,
    ⟨0x10140, "GREEK ACROPHONIC ATTIC ", "ONE QUARTER;ONE HALF;ONE DRACHMA;FIVE;FIFTY;FIVE HUNDRED;
      FIVE THOUSAND;FIFTY THOUSAND;FIVE TALENTS;TEN TALENTS;FIFTY TALENTS;ONE HUNDRED TALENTS;
      FIVE HUNDRED TALENTS;ONE THOUSAND TALENTS;FIVE THOUSAND TALENTS;FIVE STATERS;TEN STATERS;
      FIFTY STATERS;ONE HUNDRED STATERS;FIVE HUNDRED STATERS;ONE THOUSAND STATERS;
      TEN THOUSAND STATERS;FIFTY THOUSAND STATERS;TEN MNAS"⟩,
    ⟨0x10158, "GREEK ACROPHONIC ", "HERAEUM ONE PLETHRON;THESPIAN ONE;HERMIONIAN ONE;EPIDAUREAN TWO;
      THESPIAN TWO;CYRENAIC TWO DRACHMAS;EPIDAUREAN TWO DRACHMAS;TROEZENIAN FIVE;TROEZENIAN TEN;
      TROEZENIAN TEN ALTERNATE FORM;HERMIONIAN TEN;MESSENIAN TEN;THESPIAN TEN;THESPIAN THIRTY;
      TROEZENIAN FIFTY;TROEZENIAN FIFTY ALTERNATE FORM;HERMIONIAN FIFTY;THESPIAN FIFTY;
      THESPIAN ONE HUNDRED;THESPIAN THREE HUNDRED;EPIDAUREAN FIVE HUNDRED;TROEZENIAN FIVE HUNDRED;
      THESPIAN FIVE HUNDRED;CARYSTIAN FIVE HUNDRED;NAXIAN FIVE HUNDRED;THESPIAN ONE THOUSAND;
      THESPIAN FIVE THOUSAND;DELPHIC FIVE MNAS;STRATIAN FIFTY MNAS"⟩,
    ⟨0x10175, "GREEK ", "ONE HALF SIGN;ONE HALF SIGN ALTERNATE FORM;TWO THIRDS SIGN;
      THREE QUARTERS SIGN;YEAR SIGN;TALENT SIGN;DRACHMA SIGN;OBOL SIGN;TWO OBOLS SIGN;
      THREE OBOLS SIGN;FOUR OBOLS SIGN;FIVE OBOLS SIGN;METRETES SIGN;KYATHOS BASE SIGN;LITRA SIGN;
      OUNKIA SIGN;XESTES SIGN;ARTABE SIGN;AROURA SIGN;GRAMMA SIGN;TRYBLION BASE SIGN;ZERO SIGN;
      ONE QUARTER SIGN;SINUSOID SIGN;INDICTION SIGN"⟩, ⟨0x1018E, "", "NOMISMA SIGN"⟩,
    ⟨0x10190, "ROMAN ", "SEXTANS SIGN;UNCIA SIGN;SEMUNCIA SIGN;SEXTULA SIGN;DIMIDIA SEXTULA SIGN;
      SILIQUA SIGN;DENARIUS SIGN;QUINARIUS SIGN;SESTERTIUS SIGN;DUPONDIUS SIGN;AS SIGN;
      CENTURIAL SIGN"⟩, ⟨0x1019C, "", "ASCIA SYMBOL"⟩, ⟨0x101A0, "", "GREEK SYMBOL TAU RHO"⟩,
    ⟨0x101D0, "PHAISTOS DISC SIGN ", "PEDESTRIAN;PLUMED HEAD;TATTOOED HEAD;CAPTIVE;CHILD;WOMAN;
      HELMET;GAUNTLET;TIARA;ARROW;BOW;SHIELD;CLUB;MANACLES;MATTOCK;SAW;LID;BOOMERANG;
      CARPENTRY PLANE;DOLIUM;COMB;SLING;COLUMN;BEEHIVE;SHIP;HORN;HIDE;BULLS LEG;CAT;RAM;EAGLE;DOVE;
      TUNNY;BEE;PLANE TREE;VINE;PAPYRUS;ROSETTE;LILY;OX BACK;FLUTE;GRATER;STRAINER;SMALL AXE;
      WAVY BAND;COMBINING OBLIQUE STROKE"⟩, ⟨0x10280, "LYCIAN LETTER ", "A;E;B;BH;G;D;I;W;Z;TH;J;K;
      Q;L;M;N;MM;NN;U;P;KK;R;S;T;TT;AN;EN;H;X"⟩, ⟨0x102A0, "CARIAN LETTER ", "A;P2;D;L;UUU;R;LD;A2;
      Q;B;M;O;D2;T;SH;SH2;S;C-18;U;NN;X;N;TT2;P;SS;I;E;UUUU;K;K2;ND;UU;G;G2;ST;ST2;NG;II;C-39;TT;
      UUU2;RR;MB;MB2;MB3;MB4;LD2;E2;UUU3"⟩, ⟨0x102E0, "", "COPTIC EPACT THOUSANDS MARK"⟩,
    ⟨0x102E1, "COPTIC EPACT DIGIT ", "ONE;TWO;THREE;FOUR;FIVE;SIX;SEVEN;EIGHT;NINE"⟩,
    ⟨0x102EA, "COPTIC EPACT NUMBER ", "TEN;TWENTY;THIRTY;FORTY;FIFTY;SIXTY;SEVENTY;EIGHTY;NINETY;
      ONE HUNDRED;TWO HUNDRED;THREE HUNDRED;FOUR HUNDRED;FIVE HUNDRED;SIX HUNDRED;SEVEN HUNDRED;
      EIGHT HUNDRED;NINE HUNDRED"⟩, ⟨0x10300, "OLD ITALIC LETTER ", "A;BE;KE;DE;E;VE;ZE;HE;THE;I;KA;
      EL;EM;EN;ESH;O;PE;SHE;KU;ER;ES;TE;U;EKS;PHE;KHE;EF;ERS;CHE;II;UU;ESS"⟩,
    ⟨0x10320, "OLD ITALIC NUMERAL ", "ONE;FIVE;TEN;FIFTY"⟩, ⟨0x1032D, "OLD ITALIC LETTER ", "YE;
      NORTHERN TSE;SOUTHERN TSE"⟩, ⟨0x10330, "GOTHIC LETTER ", "AHSA;BAIRKAN;GIBA;DAGS;AIHVUS;
      QAIRTHRA;IUJA;HAGL;THIUTH;EIS;KUSMA;LAGUS;MANNA;NAUTHS;JER;URUS;PAIRTHRA;NINETY;RAIDA;SAUIL;
      TEIWS;WINJA;FAIHU;IGGWS;HWAIR;OTHAL;NINE HUNDRED"⟩, ⟨0x10350, "OLD PERMIC LETTER ", "AN;BUR;
      GAI;DOI;E;ZHOI;DZHOI;ZATA;DZITA;I;KOKE;LEI;MENOE;NENOE;VOOI;PEEI;REI;SII;TAI;U;CHERY;SHOOI;
      SHCHOOI;YRY;YERU;O;OO;EF;HA;TSIU;VER;YER;YERI;YAT;IE;YU;YA;IA"⟩,
    ⟨0x10376, "COMBINING OLD PERMIC LETTER ", "AN;DOI;ZATA;NENOE;SII"⟩,
    ⟨0x10380, "UGARITIC LETTER ", "ALPA;BETA;GAMLA;KHA;DELTA;HO;WO;ZETA;HOTA;TET;YOD;KAF;SHIN;LAMDA;
      MEM;DHAL;NUN;ZU;SAMKA;AIN;PU;SADE;QOPA;RASHA;THANNA;GHAIN;TO;I;U;SSU"⟩,
    ⟨0x1039F, "", "UGARITIC WORD DIVIDER"⟩, ⟨0x103A0, "OLD PERSIAN SIGN ", "A;I;U;KA;KU;GA;GU;XA;CA;
      JA;JI;TA;TU;DA;DI;DU;THA;PA;BA;FA;NA;NU;MA;MI;MU;YA;VA;VI;RA;RU;LA;SA;ZA;SHA;SSA;HA"⟩,
    ⟨0x103C8, "OLD PERSIAN SIGN ", "AURAMAZDAA;AURAMAZDAA-2;AURAMAZDAAHA;XSHAAYATHIYA;DAHYAAUSH;
      DAHYAAUSH-2;BAGA;BUUMISH"⟩, ⟨0x103D0, "OLD PERSIAN ", "WORD DIVIDER;NUMBER ONE;NUMBER TWO;
      NUMBER TEN;NUMBER TWENTY;NUMBER HUNDRED"⟩, ⟨0x10400, "DESERET CAPITAL LETTER ", "LONG I;
      LONG E;LONG A;LONG AH;LONG O;LONG OO;SHORT I;SHORT E;SHORT A;SHORT AH;SHORT O;SHORT OO;AY;OW;
      WU;YEE;H;PEE;BEE;TEE;DEE;CHEE;JEE;KAY;GAY;EF;VEE;ETH;THEE;ES;ZEE;ESH;ZHEE;ER;EL;EM;EN;ENG;OI;
      EW"⟩, ⟨0x10428, "DESERET SMALL LETTER ", "LONG I;LONG E;LONG A;LONG AH;LONG O;LONG OO;SHORT I;
      SHORT E;SHORT A;SHORT AH;SHORT O;SHORT OO;AY;OW;WU;YEE;H;PEE;BEE;TEE;DEE;CHEE;JEE;KAY;GAY;EF;
      VEE;ETH;THEE;ES;ZEE;ESH;ZHEE;ER;EL;EM;EN;ENG;OI;EW"⟩, ⟨0x10450, "SHAVIAN LETTER ", "PEEP;TOT;
      KICK;FEE;THIGH;SO;SURE;CHURCH;YEA;HUNG;BIB;DEAD;GAG;VOW;THEY;ZOO;MEASURE;JUDGE;WOE;HA-HA;LOLL;
      MIME;IF;EGG;ASH;ADO;ON;WOOL;OUT;AH;ROAR;NUN;EAT;AGE;ICE;UP;OAK;OOZE;OIL;AWE;ARE;OR;AIR;ERR;
      ARRAY;EAR;IAN;YEW"⟩, ⟨0x10480, "OSMANYA LETTER ", "ALEF;BA;TA;JA;XA;KHA;DEEL;RA;SA;SHIIN;DHA;
      CAYN;GA;FA;QAAF;KAAF;LAAN;MIIN;NUUN;WAW;HA;YA;A;E;I;O;U;AA;EE;OO"⟩,
    ⟨0x104A0, "OSMANYA DIGIT ", "ZERO;ONE;TWO;THREE;FOUR;FIVE;SIX;SEVEN;EIGHT;NINE"⟩,
    ⟨0x104B0, "OSAGE CAPITAL LETTER ", "A;AI;AIN;AH;BRA;CHA;EHCHA;E;EIN;HA;HYA;I;KA;EHKA;KYA;LA;MA;
      NA;O;OIN;PA;EHPA;SA;SHA;TA;EHTA;TSA;EHTSA;TSHA;DHA;U;WA;KHA;GHA;ZA;ZHA"⟩,
    ⟨0x104D8, "OSAGE SMALL LETTER ", "A;AI;AIN;AH;BRA;CHA;EHCHA;E;EIN;HA;HYA;I;KA;EHKA;KYA;LA;MA;NA;
      O;OIN;PA;EHPA;SA;SHA;TA;EHTA;TSA;EHTSA;TSHA;DHA;U;WA;KHA;GHA;ZA;ZHA"⟩,
    ⟨0x10500, "ELBASAN LETTER ", "A;BE;CE;CHE;DE;NDE;DHE;EI;E;FE;GE;GJE;HE;I;JE;KE;LE;LLE;ME;NE;NA;
      NJE;O;PE;QE;RE;RRE;SE;SHE;TE;THE;U;VE;XE;Y;ZE;ZHE;GHE;GHAMMA;KHE"⟩,
    ⟨0x10530, "CAUCASIAN ALBANIAN LETTER ", "ALT;BET;GIM;DAT;EB;ZARL;EYN;ZHIL;TAS;CHA;YOWD;ZHA;IRB;
      SHA;LAN;INYA;XEYN;DYAN;CAR;JHOX;KAR;LYIT;HEYT;QAY;AOR;CHOY;CHI;CYAY;MAQ;QAR;NOWC;DZYAY;SHAK;
      JAYN;ON;TYAY;FAM;DZAY;CHAT;PEN;GHEYS;RAT;SEYK;VEYZ;TIWR;SHOY;IWN;CYAW;CAYN;YAYD;PIWR;KIW"⟩,
    ⟨0x1056F, "", "CAUCASIAN ALBANIAN CITATION MARK"⟩, ⟨0x10570, "VITHKUQI CAPITAL LETTER ", "A;BBE;
      BE;CE;CHE;DE;DHE;EI;E;FE;GA"⟩, ⟨0x1057C, "VITHKUQI CAPITAL LETTER ", "HA;HHA;I;IJE;JE;KA;LA;
      LLA;ME;NE;NJE;O;PE;QA;RE"⟩, ⟨0x1058C, "VITHKUQI CAPITAL LETTER ", "SE;SHE;TE;THE;U;VE;XE"⟩,
    ⟨0x10594, "VITHKUQI CAPITAL LETTER ", "Y;ZE"⟩, ⟨0x10597, "VITHKUQI SMALL LETTER ", "A;BBE;BE;CE;
      CHE;DE;DHE;EI;E;FE;GA"⟩, ⟨0x105A3, "VITHKUQI SMALL LETTER ", "HA;HHA;I;IJE;JE;KA;LA;LLA;ME;NE;
      NJE;O;PE;QA;RE"⟩, ⟨0x105B3, "VITHKUQI SMALL LETTER ", "SE;SHE;TE;THE;U;VE;XE"⟩,
    ⟨0x105BB, "VITHKUQI SMALL LETTER ", "Y;ZE"⟩, ⟨0x10600, "LINEAR A SIGN ", "AB001;AB002;AB003;
      AB004;AB005;AB006;AB007;AB008;AB009;AB010;AB011;AB013;AB016;AB017;AB020;AB021;AB021F;AB021M;
      AB022;AB022F;AB022M;AB023;AB023M;AB024;AB026;AB027;AB028;A028B;AB029;AB030;AB031;AB034;AB037;
      AB038;AB039;AB040;AB041;AB044;AB045;AB046;AB047;AB048;AB049;AB050;AB051;AB053;AB054;AB055;
      AB056;AB057;AB058;AB059;AB060;AB061;AB065;AB066;AB067;AB069;AB070;AB073;AB074;AB076;AB077;
      AB078;AB079;AB080;AB081;AB082;AB085;AB086;AB087;A100-102;AB118;AB120;A120B;AB122;AB123;AB131A;
      AB131B;A131C;AB164;AB171;AB180;AB188;AB191;A301;A302;A303;A304;A305;A306;A307;A308;A309A;
      A309B;A309C;A310;A311;A312;A313A;A313B;A313C;A314;A315;A316;A317;A318;A319;A320;A321;A322;
      A323;A324;A325;A326;A327;A328;A329;A330;A331;A332;A333;A334;A335;A336;A337;A338;A339;A340;
      A341;A342;A343;A344;A345;A346;A347;A348;A349;A350;A351;A352;A353;A354;A355;A356;A357;A358;
      A359;A360;A361;A362;A363;A364;A365;A366;A367;A368;A369;A370;A371;A400-VAS;A401-VAS;A402-VAS;
      A403-VAS;A404-VAS;A405-VAS;A406-VAS;A407-VAS;A408-VAS;A409-VAS;A410-VAS;A411-VAS;A412-VAS;
      A413-VAS;A414-VAS;A415-VAS;A416-VAS;A417-VAS;A418-VAS;A501;A502;A503;A504;A505;A506;A508;A509;
      A510;A511;A512;A513;A515;A516;A520;A521;A523;A524;A525;A526;A527;A528;A529;A530;A531;A532;
      A534;A535;A536;A537;A538;A539;A540;A541;A542;A545;A547;A548;A549;A550;A551;A552;A553;A554;
      A555;A556;A557;A559;A563;A564;A565;A566;A568;A569;A570;A571;A572;A573;A574;A575;A576;A577;
      A578;A579;A580;A581;A582;A583;A584;A585;A586;A587;A588;A589;A591;A592;A594;A595;A596;A598;
      A600;A601;A602;A603;A604;A606;A608;A609;A610;A611;A612;A613;A614;A615;A616;A617;A618;A619;
      A620;A621;A622;A623;A624;A626;A627;A628;A629;A634;A637;A638;A640;A642;A643;A644;A645;A646;
      A648;A649;A651;A652;A653;A654;A655;A656;A657;A658;A659;A660;A661;A662;A663;A664"⟩,
    ⟨0x10740, "LINEAR A SIGN ", "A701 A;A702 B;A703 D;A704 E;A705 F;A706 H;A707 J;A708 K;A709 L;
      A709-2 L2;A709-3 L3;A709-4 L4;A709-6 L6;A710 W;A711 X;A712 Y;A713 OMEGA;A714 ABB;A715 BB;
      A717 DD;A726 EYYY;A732 JE"⟩, ⟨0x10760, "LINEAR A SIGN ", "A800;A801;A802;A803;A804;A805;A806;
      A807"⟩, ⟨0x10780, "MODIFIER LETTER ", "SMALL CAPITAL AA;SUPERSCRIPT TRIANGULAR COLON;
      SUPERSCRIPT HALF TRIANGULAR COLON;SMALL AE;SMALL CAPITAL B;SMALL B WITH HOOK"⟩,
    ⟨0x10787, "MODIFIER LETTER SMALL ", "DZ DIGRAPH;DZ DIGRAPH WITH RETROFLEX HOOK;
      DZ DIGRAPH WITH CURL;DEZH DIGRAPH;D WITH TAIL;D WITH HOOK;D WITH HOOK AND TAIL;REVERSED E;
      CLOSED REVERSED OPEN E;FENG DIGRAPH;RAMS HORN;CAPITAL G;G WITH HOOK;CAPITAL G WITH HOOK;
      H WITH STROKE;CAPITAL H;HENG WITH HOOK;DOTLESS J WITH STROKE AND HOOK;LS DIGRAPH;LZ DIGRAPH;
      L WITH BELT;CAPITAL L WITH BELT;L WITH RETROFLEX HOOK AND BELT;LEZH;LEZH WITH RETROFLEX HOOK;
      TURNED Y;TURNED Y WITH BELT;O WITH STROKE;CAPITAL OE;CLOSED OMEGA;Q;TURNED R WITH LONG LEG;
      TURNED R WITH LONG LEG AND RETROFLEX HOOK;R WITH TAIL;R WITH FISHHOOK;CAPITAL R;
      TC DIGRAPH WITH CURL;TS DIGRAPH;TS DIGRAPH WITH RETROFLEX HOOK;TESH DIGRAPH;
      T WITH RETROFLEX HOOK;V WITH RIGHT HOOK"⟩, ⟨0x107B2, "MODIFIER LETTER ", "SMALL CAPITAL Y;
      GLOTTAL STOP WITH STROKE;REVERSED GLOTTAL STOP WITH STROKE;BILABIAL CLICK;DENTAL CLICK;
      LATERAL CLICK;ALVEOLAR CLICK;RETROFLEX CLICK WITH RETROFLEX HOOK;SMALL S WITH CURL"⟩,
    ⟨0x10800, "CYPRIOT SYLLABLE ", "A;E;I;O;U;JA"⟩, ⟨0x10808, "", "CYPRIOT SYLLABLE JO"⟩,
    ⟨0x1080A, "CYPRIOT SYLLABLE ", "KA;KE;KI;KO;KU;LA;LE;LI;LO;LU;MA;ME;MI;MO;MU;NA;NE;NI;NO;NU;PA;
      PE;PI;PO;PU;RA;RE;RI;RO;RU;SA;SE;SI;SO;SU;TA;TE;TI;TO;TU;WA;WE;WI;WO"⟩,
    ⟨0x10837, "CYPRIOT SYLLABLE ", "XA;XE"⟩, ⟨0x1083C, "", "CYPRIOT SYLLABLE ZA"⟩,
    ⟨0x1083F, "", "CYPRIOT SYLLABLE ZO"⟩, ⟨0x10840, "IMPERIAL ARAMAIC LETTER ", "ALEPH;BETH;GIMEL;
      DALETH;HE;WAW;ZAYIN;HETH;TETH;YODH;KAPH;LAMEDH;MEM;NUN;SAMEKH;AYIN;PE;SADHE;QOPH;RESH;SHIN;
      TAW"⟩, ⟨0x10857, "", "IMPERIAL ARAMAIC SECTION SIGN"⟩,
    ⟨0x10858, "IMPERIAL ARAMAIC NUMBER ", "ONE;TWO;THREE;TEN;TWENTY;ONE HUNDRED;ONE THOUSAND;
      TEN THOUSAND"⟩, ⟨0x10860, "PALMYRENE LETTER ", "ALEPH;BETH;GIMEL;DALETH;HE;WAW;ZAYIN;HETH;
      TETH;YODH;KAPH;LAMEDH;MEM;FINAL NUN;NUN;SAMEKH;AYIN;PE;SADHE;QOPH;RESH;SHIN;TAW"⟩,
    ⟨0x10877, "PALMYRENE ", "LEFT-POINTING FLEURON;RIGHT-POINTING FLEURON"⟩,
    ⟨0x10879, "PALMYRENE NUMBER ", "ONE;TWO;THREE;FOUR;FIVE;TEN;TWENTY"⟩,
    ⟨0x10880, "NABATAEAN LETTER ", "FINAL ALEPH;ALEPH;FINAL BETH;BETH;GIMEL;DALETH;FINAL HE;HE;WAW;
      ZAYIN;HETH;TETH;FINAL YODH;YODH;FINAL KAPH;KAPH;FINAL LAMEDH;LAMEDH;FINAL MEM;MEM;FINAL NUN;
      NUN;SAMEKH;AYIN;PE;SADHE;QOPH;RESH;FINAL SHIN;SHIN;TAW"⟩, ⟨0x108A7, "NABATAEAN ", "NUMBER ONE;
      NUMBER TWO;NUMBER THREE;NUMBER FOUR;CRUCIFORM NUMBER FOUR;NUMBER FIVE;NUMBER TEN;
      NUMBER TWENTY;NUMBER ONE HUNDRED"⟩, ⟨0x108E0, "HATRAN LETTER ", "ALEPH;BETH;GIMEL;DALETH-RESH;
      HE;WAW;ZAYN;HETH;TETH;YODH;KAPH;LAMEDH;MEM;NUN;SAMEKH;AYN;PE;SADHE;QOPH"⟩,
    ⟨0x108F4, "HATRAN LETTER ", "SHIN;TAW"⟩, ⟨0x108FB, "HATRAN NUMBER ", "ONE;FIVE;TEN;TWENTY;
      ONE HUNDRED"⟩, ⟨0x10900, "PHOENICIAN LETTER ", "ALF;BET;GAML;DELT;HE;WAU;ZAI;HET;TET;YOD;KAF;
      LAMD;MEM;NUN;SEMK;AIN;PE;SADE;QOF;ROSH;SHIN;TAU"⟩, ⟨0x10916, "PHOENICIAN NUMBER ", "ONE;TEN;
      TWENTY;ONE HUNDRED;TWO;THREE"⟩, ⟨0x1091F, "", "PHOENICIAN WORD SEPARATOR"⟩,
    ⟨0x10920, "LYDIAN LETTER ", "A;B;G;D;E;V;I;Y;K;L;M;N;O;R;SS;T;U;F;Q;S;TT;AN;EN;LY;NN;C"⟩,
    ⟨0x1093F, "", "LYDIAN TRIANGULAR MARK"⟩, ⟨0x10980, "MEROITIC HIEROGLYPHIC LETTER ", "A;E;I;O;YA;
      WA;BA;BA-2;PA;MA;NA;NA-2;NE;NE-2;RA;RA-2;LA;KHA;HHA;SA;SA-2;SE;KA;QA;TA;TA-2;TE;TE-2;TO;DA"⟩,
    ⟨0x1099E, "MEROITIC HIEROGLYPHIC SYMBOL ", "VIDJ;VIDJ-2"⟩,
    ⟨0x109A0, "MEROITIC CURSIVE LETTER ", "A;E;I;O;YA;WA;BA;PA;MA;NA;NE;RA;LA;KHA;HHA;SA;ARCHAIC SA;
      SE;KA;QA;TA;TE;TO;DA"⟩, ⟨0x109BC, "MEROITIC CURSIVE ", "FRACTION ELEVEN TWELFTHS;
      FRACTION ONE HALF;LOGOGRAM RMT;LOGOGRAM IMN"⟩, ⟨0x109C0, "MEROITIC CURSIVE NUMBER ", "ONE;TWO;
      THREE;FOUR;FIVE;SIX;SEVEN;EIGHT;NINE;TEN;TWENTY;THIRTY;FORTY;FIFTY;SIXTY;SEVENTY"⟩,
    ⟨0x109D2, "MEROITIC CURSIVE NUMBER ", "ONE HUNDRED;TWO HUNDRED;THREE HUNDRED;FOUR HUNDRED;
      FIVE HUNDRED;SIX HUNDRED;SEVEN HUNDRED;EIGHT HUNDRED;NINE HUNDRED;ONE THOUSAND;TWO THOUSAND;
      THREE THOUSAND;FOUR THOUSAND;FIVE THOUSAND;SIX THOUSAND;SEVEN THOUSAND;EIGHT THOUSAND;
      NINE THOUSAND;TEN THOUSAND;TWENTY THOUSAND;THIRTY THOUSAND;FORTY THOUSAND;FIFTY THOUSAND;
      SIXTY THOUSAND;SEVENTY THOUSAND;EIGHTY THOUSAND;NINETY THOUSAND;ONE HUNDRED THOUSAND;
      TWO HUNDRED THOUSAND;THREE HUNDRED THOUSAND;FOUR HUNDRED THOUSAND;FIVE HUNDRED THOUSAND;
      SIX HUNDRED THOUSAND;SEVEN HUNDRED THOUSAND;EIGHT HUNDRED THOUSAND;NINE HUNDRED THOUSAND"⟩,
    ⟨0x109F6, "MEROITIC CURSIVE FRACTION ", "ONE TWELFTH;TWO TWELFTHS;THREE TWELFTHS;FOUR TWELFTHS;
      FIVE TWELFTHS;SIX TWELFTHS;SEVEN TWELFTHS;EIGHT TWELFTHS;NINE TWELFTHS;TEN TWELFTHS"⟩,
    ⟨0x10A00, "KHAROSHTHI ", "LETTER A;VOWEL SIGN I;VOWEL SIGN U;VOWEL SIGN VOCALIC R"⟩,
    ⟨0x10A05, "KHAROSHTHI VOWEL SIGN ", "E;O"⟩, ⟨0x10A0C, "KHAROSHTHI ", "VOWEL LENGTH MARK;
      SIGN DOUBLE RING BELOW;SIGN ANUSVARA;SIGN VISARGA;LETTER KA;LETTER KHA;LETTER GA;LETTER GHA"⟩,
    ⟨0x10A15, "KHAROSHTHI LETTER ", "CA;CHA;JA"⟩, ⟨0x10A19, "KHAROSHTHI LETTER ", "NYA;TTA;TTHA;DDA;
      DDHA;NNA;TA;THA;DA;DHA;NA;PA;PHA;BA;BHA;MA;YA;RA;LA;VA;SHA;SSA;SA;ZA;HA;KKA;TTTHA;TTTA;VHA"⟩,
    ⟨0x10A38, "KHAROSHTHI SIGN ", "BAR ABOVE;CAUDA;DOT BELOW"⟩, ⟨0x10A3F, "KHAROSHTHI ", "VIRAMA;
      DIGIT ONE;DIGIT TWO;DIGIT THREE;DIGIT FOUR;NUMBER TEN;NUMBER TWENTY;NUMBER ONE HUNDRED;
      NUMBER ONE THOUSAND;FRACTION ONE HALF"⟩, ⟨0x10A50, "KHAROSHTHI PUNCTUATION ", "DOT;
      SMALL CIRCLE;CIRCLE;CRESCENT BAR;MANGALAM;LOTUS;DANDA;DOUBLE DANDA;LINES"⟩,
    ⟨0x10A60, "OLD SOUTH ARABIAN LETTER ", "HE;LAMEDH;HETH;MEM;QOPH;WAW;SHIN;RESH;BETH;TAW;SAT;KAPH;
      NUN;KHETH;SADHE;SAMEKH;FE;ALEF;AYN;DHADHE;GIMEL;DALETH;GHAYN;TETH;ZAYN;DHALETH;YODH;THAW;
      THETH"⟩, ⟨0x10A7D, "OLD SOUTH ARABIAN ", "NUMBER ONE;NUMBER FIFTY;NUMERIC INDICATOR"⟩,
    ⟨0x10A80, "OLD NORTH ARABIAN LETTER ", "HEH;LAM;HAH;MEEM;QAF;WAW;ES-2;REH;BEH;TEH;ES-1;KAF;NOON;
      KHAH;SAD;ES-3;FEH;ALEF;AIN;DAD;GEEM;DAL;GHAIN;TAH;ZAIN;THAL;YEH;THEH;ZAH"⟩,
    ⟨0x10A9D, "OLD NORTH ARABIAN NUMBER ", "ONE;TEN;TWENTY"⟩,
    ⟨0x10AC0, "MANICHAEAN LETTER ", "ALEPH;BETH;BHETH;GIMEL;GHIMEL;DALETH;HE;WAW"⟩,
    ⟨0x10AC8, "", "MANICHAEAN SIGN UD"⟩, ⟨0x10AC9, "MANICHAEAN LETTER ", "ZAYIN;ZHAYIN;JAYIN;JHAYIN;
      HETH;TETH;YODH;KAPH;XAPH;KHAPH;LAMEDH;DHAMEDH;THAMEDH;MEM;NUN;SAMEKH;AYIN;AAYIN;PE;FE;SADHE;
      QOPH;XOPH;QHOPH;RESH;SHIN;SSHIN;TAW"⟩, ⟨0x10AE5, "MANICHAEAN ABBREVIATION MARK ", "ABOVE;
      BELOW"⟩, ⟨0x10AEB, "MANICHAEAN NUMBER ", "ONE;FIVE;TEN;TWENTY;ONE HUNDRED"⟩,
    ⟨0x10AF0, "MANICHAEAN PUNCTUATION ", "STAR;FLEURON;DOUBLE DOT WITHIN DOT;DOT WITHIN DOT;DOT;
      TWO DOTS;LINE FILLER"⟩, ⟨0x10B00, "AVESTAN LETTER ", "A;AA;AO;AAO;AN;AAN;AE;AEE;E;EE;O;OO;I;
      II;U;UU;KE;XE;XYE;XVE;GE;GGE;GHE;CE;JE;TE;THE;DE;DHE;TTE;PE;FE;BE;BHE;NGE;NGYE;NGVE;NE;NYE;
      NNE;ME;HME;YYE;YE;VE;RE;LE;SE;ZE;SHE;ZHE;SHYE;SSHE;HE"⟩,
    ⟨0x10B39, "", "AVESTAN ABBREVIATION MARK;TINY TWO DOTS OVER ONE DOT PUNCTUATION;
      SMALL TWO DOTS OVER ONE DOT PUNCTUATION"⟩,
    ⟨0x10B3C, "LARGE ", "TWO DOTS OVER ONE DOT PUNCTUATION;ONE DOT OVER TWO DOTS PUNCTUATION;
      TWO RINGS OVER ONE RING PUNCTUATION;ONE RING OVER TWO RINGS PUNCTUATION"⟩,
    ⟨0x10B40, "INSCRIPTIONAL PARTHIAN LETTER ", "ALEPH;BETH;GIMEL;DALETH;HE;WAW;ZAYIN;HETH;TETH;
      YODH;KAPH;LAMEDH;MEM;NUN;SAMEKH;AYIN;PE;SADHE;QOPH;RESH;SHIN;TAW"⟩,
    ⟨0x10B58, "INSCRIPTIONAL PARTHIAN NUMBER ", "ONE;TWO;THREE;FOUR;TEN;TWENTY;ONE HUNDRED;
      ONE THOUSAND"⟩, ⟨0x10B60, "INSCRIPTIONAL PAHLAVI LETTER ", "ALEPH;BETH;GIMEL;DALETH;HE;
      WAW-AYIN-RESH;ZAYIN;HETH;TETH;YODH;KAPH;LAMEDH;MEM-QOPH;NUN;SAMEKH;PE;SADHE;SHIN;TAW"⟩,
    ⟨0x10B78, "INSCRIPTIONAL PAHLAVI NUMBER ", "ONE;TWO;THREE;FOUR;TEN;TWENTY;ONE HUNDRED;
      ONE THOUSAND"⟩, ⟨0x10B80, "PSALTER PAHLAVI LETTER ", "ALEPH;BETH;GIMEL;DALETH;HE;
      WAW-AYIN-RESH;ZAYIN;HETH;YODH;KAPH;LAMEDH;MEM-QOPH;NUN;SAMEKH;PE;SADHE;SHIN;TAW"⟩,
    ⟨0x10B99, "PSALTER PAHLAVI ", "SECTION MARK;TURNED SECTION MARK;FOUR DOTS WITH CROSS;
      FOUR DOTS WITH DOT"⟩, ⟨0x10BA9, "PSALTER PAHLAVI NUMBER ", "ONE;TWO;THREE;FOUR;TEN;TWENTY;
      ONE HUNDRED"⟩, ⟨0x10C00, "OLD TURKIC LETTER ", "ORKHON A;YENISEI A;YENISEI AE;ORKHON I;
      YENISEI I;YENISEI E;ORKHON O;ORKHON OE;YENISEI OE;ORKHON AB;YENISEI AB;ORKHON AEB;YENISEI AEB;
      ORKHON AG;YENISEI AG;ORKHON AEG;YENISEI AEG;ORKHON AD;YENISEI AD;ORKHON AED;ORKHON EZ;
      YENISEI EZ;ORKHON AY;YENISEI AY;ORKHON AEY;YENISEI AEY;ORKHON AEK;YENISEI AEK;ORKHON OEK;
      YENISEI OEK;ORKHON AL;YENISEI AL;ORKHON AEL;ORKHON ELT;ORKHON EM;ORKHON AN;ORKHON AEN;
      YENISEI AEN;ORKHON ENT;YENISEI ENT;ORKHON ENC;YENISEI ENC;ORKHON ENY;YENISEI ENY;YENISEI ANG;
      ORKHON ENG;YENISEI AENG;ORKHON EP;ORKHON OP;ORKHON IC;ORKHON EC;YENISEI EC;ORKHON AQ;
      YENISEI AQ;ORKHON IQ;YENISEI IQ;ORKHON OQ;YENISEI OQ;ORKHON AR;YENISEI AR;ORKHON AER;
      ORKHON AS;ORKHON AES;ORKHON ASH;YENISEI ASH;ORKHON ESH;YENISEI ESH;ORKHON AT;YENISEI AT;
      ORKHON AET;YENISEI AET;ORKHON OT;ORKHON BASH"⟩, ⟨0x10C80, "OLD HUNGARIAN CAPITAL LETTER ", "A;
      AA;EB;AMB;EC;ENC;ECS;ED;AND;E;CLOSE E;EE;EF;EG;EGY;EH;I;II;EJ;EK;AK;UNK;EL;ELY;EM;EN;ENY;O;OO;
      NIKOLSBURG OE;RUDIMENTA OE;OEE;EP;EMP;ER;SHORT ER;ES;ESZ;ET;ENT;ETY;ECH;U;UU;NIKOLSBURG UE;
      RUDIMENTA UE;EV;EZ;EZS;ENT-SHAPED SIGN;US"⟩, ⟨0x10CC0, "OLD HUNGARIAN SMALL LETTER ", "A;AA;
      EB;AMB;EC;ENC;ECS;ED;AND;E;CLOSE E;EE;EF;EG;EGY;EH;I;II;EJ;EK;AK;UNK;EL;ELY;EM;EN;ENY;O;OO;
      NIKOLSBURG OE;RUDIMENTA OE;OEE;EP;EMP;ER;SHORT ER;ES;ESZ;ET;ENT;ETY;ECH;U;UU;NIKOLSBURG UE;
      RUDIMENTA UE;EV;EZ;EZS;ENT-SHAPED SIGN;US"⟩, ⟨0x10CFA, "OLD HUNGARIAN NUMBER ", "ONE;FIVE;TEN;
      FIFTY;ONE HUNDRED;ONE THOUSAND"⟩, ⟨0x10D00, "HANIFI ROHINGYA LETTER ", "A;BA;PA;TA;TTA;JA;CA;
      HA;KHA;FA;DA;DDA;RA;RRA;ZA;SA;SHA;KA;GA;LA;MA;NA;WA;KINNA WA;YA;KINNA YA;NGA;NYA;VA"⟩,
    ⟨0x10D1D, "HANIFI ROHINGYA ", "VOWEL A;VOWEL I;VOWEL U;VOWEL E;VOWEL O;MARK SAKIN;
      MARK NA KHONNA;SIGN HARBAHAY;SIGN TAHALA;SIGN TANA;SIGN TASSI"⟩,
    ⟨0x10D30, "HANIFI ROHINGYA DIGIT ", "ZERO;ONE;TWO;THREE;FOUR;FIVE;SIX;SEVEN;EIGHT;NINE"⟩,
    ⟨0x10E60, "RUMI DIGIT ", "ONE;TWO;THREE;FOUR;FIVE;SIX;SEVEN;EIGHT;NINE"⟩,
    ⟨0x10E69, "RUMI NUMBER ", "TEN;TWENTY;THIRTY;FORTY;FIFTY;SIXTY;SEVENTY;EIGHTY;NINETY;
      ONE HUNDRED;TWO HUNDRED;THREE HUNDRED;FOUR HUNDRED;FIVE HUNDRED;SIX HUNDRED;SEVEN HUNDRED;
      EIGHT HUNDRED;NINE HUNDRED"⟩, ⟨0x10E7B, "RUMI FRACTION ", "ONE HALF;ONE QUARTER;ONE THIRD;
      TWO THIRDS"⟩, ⟨0x10E80, "YEZIDI LETTER ", "ELIF;BE;PE;PHE;THE;SE;CIM;CHIM;CHHIM;HHA;XA;DAL;
      ZAL;RA;RHA;ZA;JA;SIN;SHIN;SAD;DAD;TA;ZE;EYN;XHEYN;FA;VA;VA ALTERNATE FORM;QAF;KAF;KHAF;GAF;
      LAM;MIM;NUN;UM;WAW;OW;EW;HAY;YOT;ET"⟩, ⟨0x10EAB, "YEZIDI ", "COMBINING HAMZA MARK;
      COMBINING MADDA MARK;HYPHENATION MARK"⟩, ⟨0x10EB0, "YEZIDI LETTER ", "LAM WITH DOT ABOVE;
      YOT WITH CIRCUMFLEX ABOVE"⟩, ⟨0x10F00, "OLD SOGDIAN LETTER ", "ALEPH;FINAL ALEPH;BETH;
      FINAL BETH;GIMEL;HE;FINAL HE;WAW;ZAYIN;HETH;YODH;KAPH;LAMEDH;MEM;NUN;FINAL NUN;
      FINAL NUN WITH VERTICAL TAIL;SAMEKH;AYIN;ALTERNATE AYIN;PE;SADHE;FINAL SADHE;
      FINAL SADHE WITH VERTICAL TAIL;RESH-AYIN-DALETH;SHIN;TAW;FINAL TAW;
      FINAL TAW WITH VERTICAL TAIL"⟩, ⟨0x10F1D, "OLD SOGDIAN NUMBER ", "ONE;TWO;THREE;FOUR;FIVE;TEN;
      TWENTY;THIRTY;ONE HUNDRED"⟩, ⟨0x10F26, "OLD SOGDIAN ", "FRACTION ONE HALF;
      LIGATURE AYIN-DALETH"⟩, ⟨0x10F30, "SOGDIAN LETTER ", "ALEPH;BETH;GIMEL;HE;WAW;ZAYIN;HETH;YODH;
      KAPH;LAMEDH;MEM;NUN;SAMEKH;AYIN;PE;SADHE;RESH-AYIN;SHIN;TAW;FETH;LESH"⟩,
    ⟨0x10F45, "", "SOGDIAN INDEPENDENT SHIN"⟩, ⟨0x10F46, "SOGDIAN COMBINING ", "DOT BELOW;
      TWO DOTS BELOW;DOT ABOVE;TWO DOTS ABOVE;CURVE ABOVE;CURVE BELOW;HOOK ABOVE;HOOK BELOW;
      LONG HOOK BELOW;RESH BELOW;STROKE BELOW"⟩, ⟨0x10F51, "SOGDIAN NUMBER ", "ONE;TEN;TWENTY;
      ONE HUNDRED"⟩, ⟨0x10F55, "SOGDIAN PUNCTUATION ", "TWO VERTICAL BARS;
      TWO VERTICAL BARS WITH DOTS;CIRCLE WITH DOT;TWO CIRCLES WITH DOTS;HALF CIRCLE WITH DOT"⟩,
    ⟨0x10F70, "OLD UYGHUR LETTER ", "ALEPH;BETH;GIMEL-HETH;WAW;ZAYIN;FINAL HETH;YODH;KAPH;LAMEDH;
      MEM;NUN;SAMEKH;PE;SADHE;RESH;SHIN;TAW;LESH"⟩, ⟨0x10F82, "OLD UYGHUR COMBINING ", "DOT ABOVE;
      DOT BELOW;TWO DOTS ABOVE;TWO DOTS BELOW"⟩, ⟨0x10F86, "OLD UYGHUR PUNCTUATION ", "BAR;TWO BARS;
      TWO DOTS;FOUR DOTS"⟩, ⟨0x10FB0, "CHORASMIAN LETTER ", "ALEPH;SMALL ALEPH;BETH;GIMEL;DALETH;HE;
      WAW;CURLED WAW;ZAYIN;HETH;YODH;KAPH;LAMEDH;MEM;NUN;SAMEKH;AYIN;PE;RESH;SHIN;TAW"⟩,
    ⟨0x10FC5, "CHORASMIAN NUMBER ", "ONE;TWO;THREE;FOUR;TEN;TWENTY;ONE HUNDRED"⟩,
    ⟨0x10FE0, "ELYMAIC LETTER ", "ALEPH;BETH;GIMEL;DALETH;HE;WAW;ZAYIN;HETH;TETH;YODH;KAPH;LAMEDH;
      MEM;NUN;SAMEKH;AYIN;PE;SADHE;QOPH;RESH;SHIN;TAW"⟩,
    ⟨0x10FF6, "", "ELYMAIC LIGATURE ZAYIN-YODH"⟩, ⟨0x11000, "BRAHMI SIGN ", "CANDRABINDU;ANUSVARA;
      VISARGA;JIHVAMULIYA;UPADHMANIYA"⟩, ⟨0x11005, "BRAHMI LETTER ", "A;AA;I;II;U;UU;VOCALIC R;
      VOCALIC RR;VOCALIC L;VOCALIC LL;E;AI;O;AU;KA;KHA;GA;GHA;NGA;CA;CHA;JA;JHA;NYA;TTA;TTHA;DDA;
      DDHA;NNA;TA;THA;DA;DHA;NA;PA;PHA;BA;BHA;MA;YA;RA;LA;VA;SHA;SSA;SA;HA;LLA;OLD TAMIL LLLA;
      OLD TAMIL RRA;OLD TAMIL NNNA"⟩, ⟨0x11038, "BRAHMI VOWEL SIGN ", "AA;BHATTIPROLU AA;I;II;U;UU;
      VOCALIC R;VOCALIC RR;VOCALIC L;VOCALIC LL;E;AI;O;AU"⟩, ⟨0x11046, "BRAHMI ", "VIRAMA;DANDA;
      DOUBLE DANDA"⟩, ⟨0x11049, "BRAHMI PUNCTUATION ", "DOT;DOUBLE DOT;LINE;CRESCENT BAR;LOTUS"⟩,
    ⟨0x11052, "BRAHMI NUMBER ", "ONE;TWO;THREE;FOUR;FIVE;SIX;SEVEN;EIGHT;NINE;TEN;TWENTY;THIRTY;
      FORTY;FIFTY;SIXTY;SEVENTY;EIGHTY;NINETY;ONE HUNDRED;ONE THOUSAND"⟩,
    ⟨0x11066, "BRAHMI DIGIT ", "ZERO;ONE;TWO;THREE;FOUR;FIVE;SIX;SEVEN;EIGHT;NINE"⟩,
    ⟨0x11070, "BRAHMI ", "SIGN OLD TAMIL VIRAMA;LETTER OLD TAMIL SHORT E;LETTER OLD TAMIL SHORT O;
      VOWEL SIGN OLD TAMIL SHORT E;VOWEL SIGN OLD TAMIL SHORT O;LETTER OLD TAMIL LLA"⟩,
    ⟨0x1107F, "", "BRAHMI NUMBER JOINER"⟩, ⟨0x11080, "KAITHI SIGN ", "CANDRABINDU;ANUSVARA;
      VISARGA"⟩, ⟨0x11083, "KAITHI LETTER ", "A;AA;I;II;U;UU;E;AI;O;AU;KA;KHA;GA;GHA;NGA;CA;CHA;JA;
      JHA;NYA;TTA;TTHA;DDA;DDDHA;DDHA;RHA;NNA;TA;THA;DA;DHA;NA;PA;PHA;BA;BHA;MA;YA;RA;LA;VA;SHA;SSA;
      SA;HA"⟩, ⟨0x110B0, "KAITHI VOWEL SIGN ", "AA;I;II;U;UU;E;AI;O;AU"⟩,
    ⟨0x110B9, "KAITHI ", "SIGN VIRAMA;SIGN NUKTA;ABBREVIATION SIGN;ENUMERATION SIGN;NUMBER SIGN;
      SECTION MARK;DOUBLE SECTION MARK;DANDA;DOUBLE DANDA;VOWEL SIGN VOCALIC R"⟩,
    ⟨0x110CD, "", "KAITHI NUMBER SIGN ABOVE"⟩, ⟨0x110D0, "SORA SOMPENG LETTER ", "SAH;TAH;BAH;CAH;
      DAH;GAH;MAH;NGAH;LAH;NAH;VAH;PAH;YAH;RAH;HAH;KAH;JAH;NYAH;AH;EEH;IH;UH;OH;EH;MAE"⟩,
    ⟨0x110F0, "SORA SOMPENG DIGIT ", "ZERO;ONE;TWO;THREE;FOUR;FIVE;SIX;SEVEN;EIGHT;NINE"⟩,
    ⟨0x11100, "CHAKMA SIGN ", "CANDRABINDU;ANUSVARA;VISARGA"⟩, ⟨0x11103, "CHAKMA LETTER ", "AA;I;U;
      E;KAA;KHAA;GAA;GHAA;NGAA;CAA;CHAA;JAA;JHAA;NYAA;TTAA;TTHAA;DDAA;DDHAA;NNAA;TAA;THAA;DAA;DHAA;
      NAA;PAA;PHAA;BAA;BHAA;MAA;YYAA;YAA;RAA;LAA;WAA;SAA;HAA"⟩, ⟨0x11127, "CHAKMA VOWEL SIGN ", "A;
      I;II;U;UU;E;AI;O;AU;OI"⟩, ⟨0x11131, "CHAKMA ", "O MARK;AU MARK;VIRAMA;MAAYYAA"⟩,
    ⟨0x11136, "CHAKMA DIGIT ", "ZERO;ONE;TWO;THREE;FOUR;FIVE;SIX;SEVEN;EIGHT;NINE"⟩,
    ⟨0x11140, "CHAKMA ", "SECTION MARK;DANDA;DOUBLE DANDA;QUESTION MARK;LETTER LHAA;VOWEL SIGN AA;
      VOWEL SIGN EI;LETTER VAA"⟩, ⟨0x11150, "MAHAJANI LETTER ", "A;I;U;E;O;KA;KHA;GA;GHA;CA;CHA;JA;
      JHA;NYA;TTA;TTHA;DDA;DDHA;NNA;TA;THA;DA;DHA;NA;PA;PHA;BA;BHA;MA;RA;LA;VA;SA;HA;RRA"⟩,
    ⟨0x11173, "MAHAJANI ", "SIGN NUKTA;ABBREVIATION SIGN;SECTION MARK;LIGATURE SHRI"⟩,
    ⟨0x11180, "SHARADA SIGN ", "CANDRABINDU;ANUSVARA;VISARGA"⟩, ⟨0x11183, "SHARADA LETTER ", "A;AA;
      I;II;U;UU;VOCALIC R;VOCALIC RR;VOCALIC L;VOCALIC LL;E;AI;O;AU;KA;KHA;GA;GHA;NGA;CA;CHA;JA;JHA;
      NYA;TTA;TTHA;DDA;DDHA;NNA;TA;THA;DA;DHA;NA;PA;PHA;BA;BHA;MA;YA;RA;LA;LLA;VA;SHA;SSA;SA;HA"⟩,
    ⟨0x111B3, "SHARADA VOWEL SIGN ", "AA;I;II;U;UU;VOCALIC R;VOCALIC RR;VOCALIC L;VOCALIC LL;E;AI;O;
      AU"⟩, ⟨0x111C0, "SHARADA ", "SIGN VIRAMA;SIGN AVAGRAHA;SIGN JIHVAMULIYA;SIGN UPADHMANIYA;OM;
      DANDA;DOUBLE DANDA;ABBREVIATION SIGN;SEPARATOR;SANDHI MARK;SIGN NUKTA;VOWEL MODIFIER MARK;
      EXTRA SHORT VOWEL MARK;SUTRA MARK;VOWEL SIGN PRISHTHAMATRA E;SIGN INVERTED CANDRABINDU"⟩,
    ⟨0x111D0, "SHARADA DIGIT ", "ZERO;ONE;TWO;THREE;FOUR;FIVE;SIX;SEVEN;EIGHT;NINE"⟩,
    ⟨0x111DA, "SHARADA ", "EKAM;SIGN SIDDHAM;HEADSTROKE;CONTINUATION SIGN;SECTION MARK-1;
      SECTION MARK-2"⟩, ⟨0x111E1, "SINHALA ARCHAIC DIGIT ", "ONE;TWO;THREE;FOUR;FIVE;SIX;SEVEN;
      EIGHT;NINE"⟩, ⟨0x111EA, "SINHALA ARCHAIC NUMBER ", "TEN;TWENTY;THIRTY;FORTY;FIFTY;SIXTY;
      SEVENTY;EIGHTY;NINETY;ONE HUNDRED;ONE THOUSAND"⟩, ⟨0x11200, "KHOJKI LETTER ", "A;AA;I;U;E;AI;
      O;AU;KA;KHA;GA;GGA;GHA;NGA;CA;CHA;JA;JJA"⟩, ⟨0x11213, "KHOJKI LETTER ", "NYA;TTA;TTHA;DDA;
      DDHA;NNA;TA;THA;DA;DDDA;DHA;NA;PA;PHA;BA;BBA;BHA;MA;YA;RA;LA;VA;SA;HA;LLA"⟩,
    ⟨0x1122C, "KHOJKI VOWEL SIGN ", "AA;I;II;U;E;AI;O;AU"⟩, ⟨0x11234, "KHOJKI ", "SIGN ANUSVARA;
      SIGN VIRAMA;SIGN NUKTA;SIGN SHADDA;DANDA;DOUBLE DANDA;WORD SEPARATOR;SECTION MARK;
      DOUBLE SECTION MARK;ABBREVIATION SIGN;SIGN SUKUN"⟩, ⟨0x11280, "MULTANI LETTER ", "A;I;U;E;KA;
      KHA;GA"⟩, ⟨0x11288, "", "MULTANI LETTER GHA"⟩, ⟨0x1128A, "MULTANI LETTER ", "CA;CHA;JA;JJA"⟩,
    ⟨0x1128F, "MULTANI LETTER ", "NYA;TTA;TTHA;DDA;DDDA;DDHA;NNA;TA;THA;DA;DHA;NA;PA;PHA;BA"⟩,
    ⟨0x1129F, "MULTANI LETTER ", "BHA;MA;YA;RA;LA;VA;SA;HA;RRA;RHA"⟩,
    ⟨0x112A9, "", "MULTANI SECTION MARK"⟩, ⟨0x112B0, "KHUDAWADI LETTER ", "A;AA;I;II;U;UU;E;AI;O;AU;
      KA;KHA;GA;GGA;GHA;NGA;CA;CHA;JA;JJA;JHA;NYA;TTA;TTHA;DDA;DDDA;RRA;DDHA;NNA;TA;THA;DA;DHA;NA;
      PA;PHA;BA;BBA;BHA;MA;YA;RA;LA;VA;SHA;SA;HA"⟩, ⟨0x112DF, "", "KHUDAWADI SIGN ANUSVARA"⟩,
    ⟨0x112E0, "KHUDAWADI VOWEL SIGN ", "AA;I;II;U;UU;E;AI;O;AU"⟩,
    ⟨0x112E9, "KHUDAWADI SIGN ", "NUKTA;VIRAMA"⟩, ⟨0x112F0, "KHUDAWADI DIGIT ", "ZERO;ONE;TWO;THREE;
      FOUR;FIVE;SIX;SEVEN;EIGHT;NINE"⟩, ⟨0x11300, "GRANTHA SIGN ", "COMBINING ANUSVARA ABOVE;
      CANDRABINDU;ANUSVARA;VISARGA"⟩, ⟨0x11305, "GRANTHA LETTER ", "A;AA;I;II;U;UU;VOCALIC R;
      VOCALIC L"⟩, ⟨0x1130F, "GRANTHA LETTER ", "EE;AI"⟩, ⟨0x11313, "GRANTHA LETTER ", "OO;AU;KA;
      KHA;GA;GHA;NGA;CA;CHA;JA;JHA;NYA;TTA;TTHA;DDA;DDHA;NNA;TA;THA;DA;DHA;NA"⟩,
    ⟨0x1132A, "GRANTHA LETTER ", "PA;PHA;BA;BHA;MA;YA;RA"⟩, ⟨0x11332, "GRANTHA LETTER ", "LA;LLA"⟩,
    ⟨0x11335, "GRANTHA LETTER ", "VA;SHA;SSA;SA;HA"⟩, ⟨0x1133B, "", "COMBINING BINDU BELOW;
      GRANTHA SIGN NUKTA;GRANTHA SIGN AVAGRAHA"⟩, ⟨0x1133E, "GRANTHA VOWEL SIGN ", "AA;I;II;U;UU;
      VOCALIC R;VOCALIC RR"⟩, ⟨0x11347, "GRANTHA VOWEL SIGN ", "EE;AI"⟩,
    ⟨0x1134B, "GRANTHA ", "VOWEL SIGN OO;VOWEL SIGN AU;SIGN VIRAMA"⟩, ⟨0x11350, "", "GRANTHA OM"⟩,
    ⟨0x11357, "", "GRANTHA AU LENGTH MARK"⟩, ⟨0x1135D, "GRANTHA ", "SIGN PLUTA;
      LETTER VEDIC ANUSVARA;LETTER VEDIC DOUBLE ANUSVARA;LETTER VOCALIC RR;LETTER VOCALIC LL;
      VOWEL SIGN VOCALIC L;VOWEL SIGN VOCALIC LL"⟩, ⟨0x11366, "COMBINING GRANTHA DIGIT ", "ZERO;ONE;
      TWO;THREE;FOUR;FIVE;SIX"⟩, ⟨0x11370, "COMBINING GRANTHA LETTER ", "A;KA;NA;VI;PA"⟩,
    ⟨0x11400, "NEWA LETTER ", "A;AA;I;II;U;UU;VOCALIC R;VOCALIC RR;VOCALIC L;VOCALIC LL;E;AI;O;AU;
      KA;KHA;GA;GHA;NGA;NGHA;CA;CHA;JA;JHA;NYA;NYHA;TTA;TTHA;DDA;DDHA;NNA;TA;THA;DA;DHA;NA;NHA;PA;
      PHA;BA;BHA;MA;MHA;YA;RA;RHA;LA;LHA;WA;SHA;SSA;SA;HA"⟩, ⟨0x11435, "NEWA VOWEL SIGN ", "AA;I;II;
      U;UU;VOCALIC R;VOCALIC RR;VOCALIC L;VOCALIC LL;E;AI;O;AU"⟩, ⟨0x11442, "NEWA SIGN ", "VIRAMA;
      CANDRABINDU;ANUSVARA;VISARGA;NUKTA;AVAGRAHA;FINAL ANUSVARA"⟩, ⟨0x11449, "NEWA ", "OM;SIDDHI;
      DANDA;DOUBLE DANDA;COMMA;GAP FILLER;ABBREVIATION SIGN"⟩, ⟨0x11450, "NEWA DIGIT ", "ZERO;ONE;
      TWO;THREE;FOUR;FIVE;SIX;SEVEN;EIGHT;NINE"⟩, ⟨0x1145A, "NEWA ", "DOUBLE COMMA;
      PLACEHOLDER MARK"⟩, ⟨0x1145D, "NEWA ", "INSERTION SIGN;SANDHI MARK;LETTER VEDIC ANUSVARA;
      SIGN JIHVAMULIYA;SIGN UPADHMANIYA"⟩, ⟨0x11480, "", "TIRHUTA ANJI"⟩,
    ⟨0x11481, "TIRHUTA LETTER ", "A;AA;I;II;U;UU;VOCALIC R;VOCALIC RR;VOCALIC L;VOCALIC LL;E;AI;O;
      AU;KA;KHA;GA;GHA;NGA;CA;CHA;JA;JHA;NYA;TTA;TTHA;DDA;DDHA;NNA;TA;THA;DA;DHA;NA;PA;PHA;BA;BHA;
      MA;YA;RA;LA;VA;SHA;SSA;SA;HA"⟩, ⟨0x114B0, "TIRHUTA VOWEL SIGN ", "AA;I;II;U;UU;VOCALIC R;
      VOCALIC RR;VOCALIC L;VOCALIC LL;E;SHORT E;AI;O;SHORT O;AU"⟩,
    ⟨0x114BF, "TIRHUTA ", "SIGN CANDRABINDU;SIGN ANUSVARA;SIGN VISARGA;SIGN VIRAMA;SIGN NUKTA;
      SIGN AVAGRAHA;GVANG;ABBREVIATION SIGN;OM"⟩, ⟨0x114D0, "TIRHUTA DIGIT ", "ZERO;ONE;TWO;THREE;
      FOUR;FIVE;SIX;SEVEN;EIGHT;NINE"⟩, ⟨0x11580, "SIDDHAM LETTER ", "A;AA;I;II;U;UU;VOCALIC R;
      VOCALIC RR;VOCALIC L;VOCALIC LL;E;AI;O;AU;KA;KHA;GA;GHA;NGA;CA;CHA;JA;JHA;NYA;TTA;TTHA;DDA;
      DDHA;NNA;TA;THA;DA;DHA;NA;PA;PHA;BA;BHA;MA;YA;RA;LA;VA;SHA;SSA;SA;HA"⟩,
    ⟨0x115AF, "SIDDHAM VOWEL SIGN ", "AA;I;II;U;UU;VOCALIC R;VOCALIC RR"⟩,
    ⟨0x115B8, "SIDDHAM VOWEL SIGN ", "E;AI;O;AU"⟩, ⟨0x115BC, "SIDDHAM ", "SIGN CANDRABINDU;
      SIGN ANUSVARA;SIGN VISARGA;SIGN VIRAMA;SIGN NUKTA;SIGN SIDDHAM;DANDA;DOUBLE DANDA;
      SEPARATOR DOT;SEPARATOR BAR;REPETITION MARK-1;REPETITION MARK-2;REPETITION MARK-3;
      END OF TEXT MARK"⟩, ⟨0x115CA, "SIDDHAM SECTION MARK ", "WITH TRIDENT AND U-SHAPED ORNAMENTS;
      WITH TRIDENT AND DOTTED CRESCENTS;WITH RAYS AND DOTTED CRESCENTS;
      WITH RAYS AND DOTTED DOUBLE CRESCENTS;WITH RAYS AND DOTTED TRIPLE CRESCENTS;DOUBLE RING;
      DOUBLE RING WITH RAYS;WITH DOUBLE CRESCENTS;WITH TRIPLE CRESCENTS;WITH QUADRUPLE CRESCENTS;
      WITH SEPTUPLE CRESCENTS;WITH CIRCLES AND RAYS;WITH CIRCLES AND TWO ENCLOSURES;
      WITH CIRCLES AND FOUR ENCLOSURES"⟩, ⟨0x115D8, "SIDDHAM LETTER ", "THREE-CIRCLE ALTERNATE I;
      TWO-CIRCLE ALTERNATE I;TWO-CIRCLE ALTERNATE II;ALTERNATE U"⟩,
    ⟨0x115DC, "SIDDHAM VOWEL SIGN ALTERNATE ", "U;UU"⟩, ⟨0x11600, "MODI LETTER ", "A;AA;I;II;U;UU;
      VOCALIC R;VOCALIC RR;VOCALIC L;VOCALIC LL;E;AI;O;AU;KA;KHA;GA;GHA;NGA;CA;CHA;JA;JHA;NYA;TTA;
      TTHA;DDA;DDHA;NNA;TA;THA;DA;DHA;NA;PA;PHA;BA;BHA;MA;YA;RA;LA;VA;SHA;SSA;SA;HA;LLA"⟩,
    ⟨0x11630, "MODI VOWEL SIGN ", "AA;I;II;U;UU;VOCALIC R;VOCALIC RR;VOCALIC L;VOCALIC LL;E;AI;O;
      AU"⟩, ⟨0x1163D, "MODI ", "SIGN ANUSVARA;SIGN VISARGA;SIGN VIRAMA;SIGN ARDHACANDRA;DANDA;
      DOUBLE DANDA;ABBREVIATION SIGN;SIGN HUVA"⟩, ⟨0x11650, "MODI DIGIT ", "ZERO;ONE;TWO;THREE;FOUR;
      FIVE;SIX;SEVEN;EIGHT;NINE"⟩, ⟨0x11660, "MONGOLIAN ", "BIRGA WITH ORNAMENT;ROTATED BIRGA;
      DOUBLE BIRGA WITH ORNAMENT;TRIPLE BIRGA WITH ORNAMENT;BIRGA WITH DOUBLE ORNAMENT;
      ROTATED BIRGA WITH ORNAMENT;ROTATED BIRGA WITH DOUBLE ORNAMENT;INVERTED BIRGA;
      INVERTED BIRGA WITH DOUBLE ORNAMENT;SWIRL BIRGA;SWIRL BIRGA WITH ORNAMENT;
      SWIRL BIRGA WITH DOUBLE ORNAMENT;TURNED SWIRL BIRGA WITH DOUBLE ORNAMENT"⟩,
    ⟨0x11680, "TAKRI LETTER ", "A;AA;I;II;U;UU;E;AI;O;AU;KA;KHA;GA;GHA;NGA;CA;CHA;JA;JHA;NYA;TTA;
      TTHA;DDA;DDHA;NNA;TA;THA;DA;DHA;NA;PA;PHA;BA;BHA;MA;YA;RA;LA;VA;SHA;SA;HA;RRA"⟩,
    ⟨0x116AB, "TAKRI SIGN ", "ANUSVARA;VISARGA"⟩, ⟨0x116AD, "TAKRI VOWEL SIGN ", "AA;I;II;U;UU;E;AI;
      O;AU"⟩, ⟨0x116B6, "TAKRI ", "SIGN VIRAMA;SIGN NUKTA;LETTER ARCHAIC KHA;ABBREVIATION SIGN"⟩,
    ⟨0x116C0, "TAKRI DIGIT ", "ZERO;ONE;TWO;THREE;FOUR;FIVE;SIX;SEVEN;EIGHT;NINE"⟩,
    ⟨0x11700, "AHOM LETTER ", "KA;KHA;NGA;NA;TA;ALTERNATE TA;PA;PHA;BA;MA;JA;CHA;THA;RA;LA;SA;NYA;
      HA;A;DA;DHA;GA;ALTERNATE GA;GHA;BHA;JHA;ALTERNATE BA"⟩,
    ⟨0x1171D, "AHOM CONSONANT SIGN MEDIAL ", "LA;RA;LIGATING RA"⟩, ⟨0x11720, "AHOM VOWEL SIGN ", "A;
      AA;I;II;U;UU;E;AW;O;AI;AM"⟩, ⟨0x1172B, "", "AHOM SIGN KILLER"⟩,
    ⟨0x11730, "AHOM DIGIT ", "ZERO;ONE;TWO;THREE;FOUR;FIVE;SIX;SEVEN;EIGHT;NINE"⟩,
    ⟨0x1173A, "AHOM ", "NUMBER TEN;NUMBER TWENTY;SIGN SMALL SECTION;SIGN SECTION;SIGN RULAI;
      SYMBOL VI"⟩, ⟨0x11740, "AHOM LETTER ", "CA;TTA;TTHA;DDA;DDHA;NNA;LLA"⟩,
    ⟨0x11800, "DOGRA LETTER ", "A;AA;I;II;U;UU;E;AI;O;AU;KA;KHA;GA;GHA;NGA;CA;CHA;JA;JHA;NYA;TTA;
      TTHA;DDA;DDHA;NNA;TA;THA;DA;DHA;NA;PA;PHA;BA;BHA;MA;YA;RA;LA;VA;SHA;SSA;SA;HA;RRA"⟩,
    ⟨0x1182C, "DOGRA VOWEL SIGN ", "AA;I;II;U;UU;VOCALIC R;VOCALIC RR;E;AI;O;AU"⟩,
    ⟨0x11837, "DOGRA ", "SIGN ANUSVARA;SIGN VISARGA;SIGN VIRAMA;SIGN NUKTA;ABBREVIATION SIGN"⟩,
    ⟨0x118A0, "WARANG CITI CAPITAL LETTER ", "NGAA;A;WI;YU;YA;YO;II;UU;E;O;ANG;GA;KO;ENY;YUJ;UC;ENN;
      ODD;TTE;NUNG;DA;AT;AM;BU;PU;HIYO;HOLO;HORR;HAR;SSUU;SII;VIYO"⟩,
    ⟨0x118C0, "WARANG CITI SMALL LETTER ", "NGAA;A;WI;YU;YA;YO;II;UU;E;O;ANG;GA;KO;ENY;YUJ;UC;ENN;
      ODD;TTE;NUNG;DA;AT;AM;BU;PU;HIYO;HOLO;HORR;HAR;SSUU;SII;VIYO"⟩,
    ⟨0x118E0, "WARANG CITI DIGIT ", "ZERO;ONE;TWO;THREE;FOUR;FIVE;SIX;SEVEN;EIGHT;NINE"⟩,
    ⟨0x118EA, "WARANG CITI NUMBER ", "TEN;TWENTY;THIRTY;FORTY;FIFTY;SIXTY;SEVENTY;EIGHTY;NINETY"⟩,
    ⟨0x118FF, "", "WARANG CITI OM"⟩, ⟨0x11900, "DIVES AKURU LETTER ", "A;AA;I;II;U;UU;E"⟩,
    ⟨0x11909, "", "DIVES AKURU LETTER O"⟩, ⟨0x1190C, "DIVES AKURU LETTER ", "KA;KHA;GA;GHA;NGA;CA;
      CHA;JA"⟩, ⟨0x11915, "DIVES AKURU LETTER ", "NYA;TTA"⟩, ⟨0x11918, "DIVES AKURU LETTER ", "DDA;
      DDHA;NNA;TA;THA;DA;DHA;NA;PA;PHA;BA;BHA;MA;YA;YYA;RA;LA;VA;SHA;SSA;SA;HA;LLA;ZA"⟩,
    ⟨0x11930, "DIVES AKURU VOWEL SIGN ", "AA;I;II;U;UU;E"⟩,
    ⟨0x11937, "DIVES AKURU VOWEL SIGN ", "AI;O"⟩, ⟨0x1193B, "DIVES AKURU ", "SIGN ANUSVARA;
      SIGN CANDRABINDU;SIGN HALANTA;VIRAMA;PREFIXED NASAL SIGN;MEDIAL YA;INITIAL RA;MEDIAL RA;
      SIGN NUKTA;DOUBLE DANDA;GAP FILLER;END OF TEXT MARK"⟩, ⟨0x11950, "DIVES AKURU DIGIT ", "ZERO;
      ONE;TWO;THREE;FOUR;FIVE;SIX;SEVEN;EIGHT;NINE"⟩, ⟨0x119A0, "NANDINAGARI LETTER ", "A;AA;I;II;U;
      UU;VOCALIC R;VOCALIC RR"⟩, ⟨0x119AA, "NANDINAGARI LETTER ", "E;AI;O;AU;KA;KHA;GA;GHA;NGA;CA;
      CHA;JA;JHA;NYA;TTA;TTHA;DDA;DDHA;NNA;TA;THA;DA;DHA;NA;PA;PHA;BA;BHA;MA;YA;RA;LA;VA;SHA;SSA;SA;
      HA;LLA;RRA"⟩, ⟨0x119D1, "NANDINAGARI VOWEL SIGN ", "AA;I;II;U;UU;VOCALIC R;VOCALIC RR"⟩,
    ⟨0x119DA, "NANDINAGARI VOWEL SIGN ", "E;AI;O;AU"⟩, ⟨0x119DE, "NANDINAGARI ", "SIGN ANUSVARA;
      SIGN VISARGA;SIGN VIRAMA;SIGN AVAGRAHA;SIGN SIDDHAM;HEADSTROKE;VOWEL SIGN PRISHTHAMATRA E"⟩,
    ⟨0x11A00, "", "ZANABAZAR SQUARE LETTER A"⟩, ⟨0x11A01, "ZANABAZAR SQUARE VOWEL ", "SIGN I;
      SIGN UE;SIGN U;SIGN E;SIGN OE;SIGN O;SIGN AI;SIGN AU;SIGN REVERSED I;LENGTH MARK"⟩,
    ⟨0x11A0B, "ZANABAZAR SQUARE LETTER ", "KA;KHA;GA;GHA;NGA;CA;CHA;JA;NYA;TTA;TTHA;DDA;DDHA;NNA;TA;
      THA;DA;DHA;NA;PA;PHA;BA;BHA;MA;TSA;TSHA;DZA;DZHA;ZHA;ZA;-A;YA;RA;LA;VA;SHA;SSA;SA;HA;KSSA"⟩,
    ⟨0x11A33, "ZANABAZAR SQUARE ", "FINAL CONSONANT MARK;SIGN VIRAMA;SIGN CANDRABINDU;
      SIGN CANDRABINDU WITH ORNAMENT;SIGN CANDRA WITH ORNAMENT;SIGN ANUSVARA;SIGN VISARGA;
      CLUSTER-INITIAL LETTER RA;CLUSTER-FINAL LETTER YA;CLUSTER-FINAL LETTER RA;
      CLUSTER-FINAL LETTER LA;CLUSTER-FINAL LETTER VA;INITIAL HEAD MARK;CLOSING HEAD MARK;
      MARK TSHEG;MARK SHAD;MARK DOUBLE SHAD;MARK LONG TSHEG;INITIAL DOUBLE-LINED HEAD MARK;
      CLOSING DOUBLE-LINED HEAD MARK;SUBJOINER"⟩, ⟨0x11A50, "", "SOYOMBO LETTER A"⟩,
    ⟨0x11A51, "SOYOMBO VOWEL SIGN ", "I;UE;U;E;O;OE;AI;AU;VOCALIC R;VOCALIC L"⟩,
    ⟨0x11A5B, "", "SOYOMBO VOWEL LENGTH MARK"⟩, ⟨0x11A5C, "SOYOMBO LETTER ", "KA;KHA;GA;GHA;NGA;CA;
      CHA;JA;JHA;NYA;TTA;TTHA;DDA;DDHA;NNA;TA;THA;DA;DHA;NA;PA;PHA;BA;BHA;MA;TSA;TSHA;DZA;ZHA;ZA;-A;
      YA;RA;LA;VA;SHA;SSA;SA;HA;KSSA"⟩, ⟨0x11A84, "SOYOMBO SIGN ", "JIHVAMULIYA;UPADHMANIYA"⟩,
    ⟨0x11A86, "SOYOMBO CLUSTER-INITIAL LETTER ", "RA;LA;SHA;SA"⟩,
    ⟨0x11A8A, "SOYOMBO FINAL CONSONANT SIGN ", "G;K;NG;D;N;B;M;R;L;SH;S;-A"⟩,
    ⟨0x11A96, "SOYOMBO ", "SIGN ANUSVARA;SIGN VISARGA;GEMINATION MARK;SUBJOINER;MARK TSHEG;
      MARK SHAD;MARK DOUBLE SHAD;MARK PLUTA"⟩,
    ⟨0x11A9E, "SOYOMBO HEAD MARK WITH MOON AND ", "SUN AND TRIPLE FLAME;SUN AND FLAME;SUN"⟩,
    ⟨0x11AA1, "SOYOMBO TERMINAL ", "MARK-1;MARK-2"⟩, ⟨0x11AB0, "CANADIAN SYLLABICS NATTILIK ", "HI;
      HII;HO;HOO;HA;HAA;SHRI;SHRII;SHRO;SHROO;SHRA;SHRAA"⟩, ⟨0x11ABC, "CANADIAN SYLLABICS ", "SPE;
      SPI;SPO;SPA"⟩, ⟨0x11AC0, "PAU CIN HAU LETTER ", "PA;KA;LA;MA;DA;ZA;VA;NGA;HA;GA;KHA;SA;BA;CA;
      TA;THA;NA;PHA;RA;FA;CHA;A;E;I;O;U;UA;IA"⟩, ⟨0x11ADC, "PAU CIN HAU LETTER FINAL ", "P;K;T;M;N;
      L;W;NG;Y"⟩, ⟨0x11AE5, "PAU CIN HAU ", "RISING TONE LONG;RISING TONE;SANDHI GLOTTAL STOP;
      RISING TONE LONG FINAL;RISING TONE FINAL;SANDHI GLOTTAL STOP FINAL;SANDHI TONE LONG;
      SANDHI TONE;SANDHI TONE LONG FINAL;SANDHI TONE FINAL;MID-LEVEL TONE;GLOTTAL STOP VARIANT;
      MID-LEVEL TONE LONG FINAL;MID-LEVEL TONE FINAL;LOW-FALLING TONE LONG;LOW-FALLING TONE;
      GLOTTAL STOP;LOW-FALLING TONE LONG FINAL;LOW-FALLING TONE FINAL;GLOTTAL STOP FINAL"⟩,
    ⟨0x11C00, "BHAIKSUKI LETTER ", "A;AA;I;II;U;UU;VOCALIC R;VOCALIC RR;VOCALIC L"⟩,
    ⟨0x11C0A, "BHAIKSUKI LETTER ", "E;AI;O;AU;KA;KHA;GA;GHA;NGA;CA;CHA;JA;JHA;NYA;TTA;TTHA;DDA;DDHA;
      NNA;TA;THA;DA;DHA;NA;PA;PHA;BA;BHA;MA;YA;RA;LA;VA;SHA;SSA;SA;HA"⟩,
    ⟨0x11C2F, "BHAIKSUKI VOWEL SIGN ", "AA;I;II;U;UU;VOCALIC R;VOCALIC RR;VOCALIC L"⟩,
    ⟨0x11C38, "BHAIKSUKI VOWEL SIGN ", "E;AI;O;AU"⟩, ⟨0x11C3C, "BHAIKSUKI ", "SIGN CANDRABINDU;
      SIGN ANUSVARA;SIGN VISARGA;SIGN VIRAMA;SIGN AVAGRAHA;DANDA;DOUBLE DANDA;WORD SEPARATOR;
      GAP FILLER-1;GAP FILLER-2"⟩, ⟨0x11C50, "BHAIKSUKI DIGIT ", "ZERO;ONE;TWO;THREE;FOUR;FIVE;SIX;
      SEVEN;EIGHT;NINE"⟩, ⟨0x11C5A, "BHAIKSUKI NUMBER ", "ONE;TWO;THREE;FOUR;FIVE;SIX;SEVEN;EIGHT;
      NINE;TEN;TWENTY;THIRTY;FORTY;FIFTY;SIXTY;SEVENTY;EIGHTY;NINETY"⟩,
    ⟨0x11C6C, "", "BHAIKSUKI HUNDREDS UNIT MARK"⟩, ⟨0x11C70, "MARCHEN ", "HEAD MARK;MARK SHAD"⟩,
    ⟨0x11C72, "MARCHEN LETTER ", "KA;KHA;GA;NGA;CA;CHA;JA;NYA;TA;THA;DA;NA;PA;PHA;BA;MA;TSA;TSHA;
      DZA;WA;ZHA;ZA;-A;YA;RA;LA;SHA;SA;HA;A"⟩, ⟨0x11C92, "MARCHEN SUBJOINED LETTER ", "KA;KHA;GA;
      NGA;CA;CHA;JA;NYA;TA;THA;DA;NA;PA;PHA;BA;MA;TSA;TSHA;DZA;WA;ZHA;ZA"⟩,
    ⟨0x11CA9, "MARCHEN SUBJOINED LETTER ", "YA;RA;LA;SHA;SA;HA;A"⟩,
    ⟨0x11CB0, "MARCHEN VOWEL SIGN ", "AA;I;U;E;O"⟩, ⟨0x11CB5, "MARCHEN SIGN ", "ANUSVARA;
      CANDRABINDU"⟩, ⟨0x11D00, "MASARAM GONDI LETTER ", "A;AA;I;II;U;UU;E"⟩,
    ⟨0x11D08, "MASARAM GONDI LETTER ", "AI;O"⟩, ⟨0x11D0B, "MASARAM GONDI LETTER ", "AU;KA;KHA;GA;
      GHA;NGA;CA;CHA;JA;JHA;NYA;TTA;TTHA;DDA;DDHA;NNA;TA;THA;DA;DHA;NA;PA;PHA;BA;BHA;MA;YA;RA;LA;VA;
      SHA;SSA;SA;HA;LLA;KSSA;JNYA;TRA"⟩, ⟨0x11D31, "MASARAM GONDI VOWEL SIGN ", "AA;I;II;U;UU;
      VOCALIC R"⟩, ⟨0x11D3A, "", "MASARAM GONDI VOWEL SIGN E"⟩,
    ⟨0x11D3C, "MASARAM GONDI VOWEL SIGN ", "AI;O"⟩, ⟨0x11D3F, "MASARAM GONDI ", "VOWEL SIGN AU;
      SIGN ANUSVARA;SIGN VISARGA;SIGN NUKTA;SIGN CANDRA;SIGN HALANTA;VIRAMA;REPHA;RA-KARA"⟩,
    ⟨0x11D50, "MASARAM GONDI DIGIT ", "ZERO;ONE;TWO;THREE;FOUR;FIVE;SIX;SEVEN;EIGHT;NINE"⟩,
    ⟨0x11D60, "GUNJALA GONDI LETTER ", "A;AA;I;II;U;UU"⟩, ⟨0x11D67, "GUNJALA GONDI LETTER ", "EE;
      AI"⟩, ⟨0x11D6A, "GUNJALA GONDI LETTER ", "OO;AU;YA;VA;BA;BHA;MA;KA;KHA;TA;THA;LA;GA;GHA;DA;
      DHA;NA;CA;CHA;TTA;TTHA;LLA;JA;JHA;DDA;DDHA;NGA;PA;PHA;HA;RA;SA"⟩,
    ⟨0x11D8A, "GUNJALA GONDI VOWEL SIGN ", "AA;I;II;U;UU"⟩,
    ⟨0x11D90, "GUNJALA GONDI VOWEL SIGN ", "EE;AI"⟩, ⟨0x11D93, "GUNJALA GONDI ", "VOWEL SIGN OO;
      VOWEL SIGN AU;SIGN ANUSVARA;SIGN VISARGA;VIRAMA;OM"⟩, ⟨0x11DA0, "GUNJALA GONDI DIGIT ", "ZERO;
      ONE;TWO;THREE;FOUR;FIVE;SIX;SEVEN;EIGHT;NINE"⟩, ⟨0x11EE0, "MAKASAR LETTER ", "KA;GA;NGA;PA;BA;
      MA;TA;DA;NA;CA;JA;NYA;YA;RA;LA;VA;SA;A"⟩, ⟨0x11EF2, "MAKASAR ", "ANGKA;VOWEL SIGN I;
      VOWEL SIGN U;VOWEL SIGN E;VOWEL SIGN O;PASSIMBANG;END OF SECTION"⟩,
    ⟨0x11FB0, "", "LISU LETTER YHA"⟩, ⟨0x11FC0, "TAMIL FRACTION ", "ONE THREE-HUNDRED-AND-TWENTIETH;
      ONE ONE-HUNDRED-AND-SIXTIETH;ONE EIGHTIETH;ONE SIXTY-FOURTH;ONE FORTIETH;ONE THIRTY-SECOND;
      THREE EIGHTIETHS;THREE SIXTY-FOURTHS;ONE TWENTIETH;ONE SIXTEENTH-1;ONE SIXTEENTH-2;ONE TENTH;
      ONE EIGHTH;THREE TWENTIETHS;THREE SIXTEENTHS;ONE FIFTH;ONE QUARTER;ONE HALF-1;ONE HALF-2;
      THREE QUARTERS;DOWNSCALING FACTOR KIIZH"⟩, ⟨0x11FD5, "TAMIL SIGN ", "NEL;CEVITU;AAZHAAKKU;
      UZHAKKU;MUUVUZHAKKU;KURUNI;PATHAKKU;MUKKURUNI;KAACU;PANAM;PON;VARAAKAN;PAARAM;KUZHI;VELI"⟩,
    ⟨0x11FE4, "TAMIL ", "WET CULTIVATION SIGN;DRY CULTIVATION SIGN;LAND SIGN;SALT PAN SIGN;
      TRADITIONAL CREDIT SIGN;TRADITIONAL NUMBER SIGN;CURRENT SIGN;AND ODD SIGN;SPENT SIGN;
      TOTAL SIGN;IN POSSESSION SIGN;STARTING FROM SIGN;SIGN MUTHALIYA;SIGN VAKAIYARAA"⟩,
    ⟨0x11FFF, "", "TAMIL PUNCTUATION END OF TEXT;CUNEIFORM SIGN A"⟩]

end ContractScan.Text
